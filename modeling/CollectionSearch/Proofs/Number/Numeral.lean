import CollectionSearch.Number.Reading
import Mathlib.Data.List.TakeWhile

/-! Whole numbers from text. A row of decimal digits, in whatever script, is a number unless it exceeds the limit
on digits; a row with any other character in it is none. -/
namespace CollectionSearch.Number

theorem wholeOfDecimals {digits : Text} (some : digits ≠ []) (decimal : ∀ c ∈ digits, Text.isDecimal c = true) :
    wholeOfDigits digits =
      if Fault.digitLimit < digits.length then .error (.oversizedNumeral digits.length)
      else .ok (Text.denoted (digits.filterMap Text.digit?)) := by
  have all : digits.takeWhile Text.isDecimal = digits := List.takeWhile_eq_self_iff.mpr decimal
  simp [wholeOfDigits, all, some]

inductive Unread (s : Text) : Fault → Prop where
  | long (many : Fault.digitLimit < (s.takeWhile Text.isDecimal).length) :
      Unread s (.oversizedNumeral (s.takeWhile Text.isDecimal).length)
  | other (few : (s.takeWhile Text.isDecimal).length ≤ Fault.digitLimit)
      (stray : ∃ c ∈ s, Text.isDecimal c = false) : Unread s (.notWhole s)

theorem frontShorter {s : Text} :
    (s.takeWhile Text.isDecimal).length < s.length ↔ ∃ c ∈ s, Text.isDecimal c = false := by
  have front := List.takeWhile_sublist (l := s) Text.isDecimal
  constructor
  · intro shorter
    by_contra none
    have decimal : ∀ c ∈ s, Text.isDecimal c = true := by simpa using none
    rw [List.takeWhile_eq_self_iff.mpr decimal] at shorter
    omega
  · rintro ⟨c, member, fails⟩
    refine Nat.lt_of_le_of_ne front.length_le (fun same => ?_)
    have holds := List.takeWhile_eq_self_iff.mp (front.eq_of_length same) c member
    simp [fails] at holds

theorem wholeOfUnread {s : Text} {fault : Fault} (unread : Unread s fault) : wholeOfDigits s = .error fault := by
  unfold wholeOfDigits
  cases unread with
  | long many => rw [if_pos many]
  | other few stray =>
    rw [if_neg (Nat.not_lt.mpr few), if_pos (by simp [frontShorter.mpr stray])]

structure DigitRow (s : Text) : Prop where
  some : s ≠ []
  decimal : ∀ c ∈ s, Text.isDecimal c = true
  short : s.length ≤ Fault.digitLimit

theorem wholeOfRow {s : Text} (row : DigitRow s) : wholeOfDigits s = .ok (Text.denoted (s.filterMap Text.digit?)) :=
  (wholeOfDecimals row.some row.decimal).trans (if_neg (Nat.not_lt.mpr row.short))

theorem unreadOtherwise {s : Text} (some : s ≠ []) (none : ¬ DigitRow s) : ∃ fault, Unread s fault := by
  rcases Nat.lt_or_ge Fault.digitLimit (s.takeWhile Text.isDecimal).length with many | few
  · exact ⟨_, .long many⟩
  · refine ⟨_, .other few (frontShorter.mp ?_)⟩
    by_contra whole
    have decimal : ∀ c ∈ s, Text.isDecimal c = true := by simpa [frontShorter] using whole
    exact none ⟨some, decimal, List.takeWhile_eq_self_iff.mpr decimal ▸ few⟩

theorem wholeOfOthers {s : Text} (short : s.length ≤ Fault.digitLimit) (other : ∃ c ∈ s, Text.isDecimal c = false) :
    wholeOfDigits s = .error (.notWhole s) :=
  wholeOfUnread (.other ((List.takeWhile_sublist _).length_le.trans short) other)

structure Numeral (value digits : Text) : Prop where
  written : value = digits ∨ value = .char '-' :: digits ∨ value = .char '+' :: digits
  some : digits ≠ []
  decimal : ∀ c ∈ digits, Text.isDecimal c = true

theorem signNotDecimal : Text.isDecimal (.char '-') = false ∧ Text.isDecimal (.char '+') = false := by
  decide +kernel

theorem numeralUnsigned {c : CodePoint} {rest : Text} (decimal : ∀ x ∈ c :: rest, Text.isDecimal x = true) :
    c ≠ .char '-' ∧ c ≠ .char '+' := by
  have head := decimal c List.mem_cons_self
  constructor
  · rintro rfl
    simp [signNotDecimal.1] at head
  · rintro rfl
    simp [signNotDecimal.2] at head

theorem isWholeIff {value : Text} : isWhole value = true ↔ ∃ digits, Numeral value digits := by
  constructor
  · intro whole
    unfold isWhole at whole
    simp only [Bool.and_eq_true, Bool.not_eq_eq_eq_not, Bool.not_true, List.isEmpty_eq_false_iff,
      List.all_eq_true] at whole
    split at whole
    · exact ⟨_, Or.inr (Or.inl rfl), whole.1, whole.2⟩
    · exact ⟨_, Or.inr (Or.inr rfl), whole.1, whole.2⟩
    · exact ⟨_, Or.inl rfl, whole.1, whole.2⟩
  · rintro ⟨digits, written, some, decimal⟩
    have holds : (!digits.isEmpty && digits.all Text.isDecimal) = true := by simpa [some] using decimal
    rcases written with rfl | rfl | rfl
    · obtain ⟨c, rest, rfl⟩ := List.exists_cons_of_ne_nil some
      obtain ⟨minus, plus⟩ := numeralUnsigned decimal
      simpa [isWhole, minus, plus] using holds
    · exact holds
    · exact holds

theorem readWholeSigned {value digits : Text} (numeral : Numeral value digits) :
    readWhole value = wholeOfDigits digits ∨ readWhole value = (- ·) <$> wholeOfDigits digits := by
  obtain ⟨written, some, decimal⟩ := numeral
  rcases written with rfl | rfl | rfl
  · obtain ⟨c, rest, rfl⟩ := List.exists_cons_of_ne_nil some
    obtain ⟨minus, plus⟩ := numeralUnsigned decimal
    exact Or.inl (by simp [readWhole, minus, plus])
  · exact Or.inr rfl
  · exact Or.inl rfl

theorem readWholeNumeral {value digits : Text} (numeral : Numeral value digits) :
    (Fault.digitLimit < digits.length ∧ readWhole value = .error (.oversizedNumeral digits.length)) ∨
    (digits.length ≤ Fault.digitLimit ∧ ∃ n, readWhole value = .ok n) := by
  have read := wholeOfDecimals numeral.some numeral.decimal
  rcases Nat.lt_or_ge Fault.digitLimit digits.length with long | short
  · rw [if_pos long] at read
    refine Or.inl ⟨long, ?_⟩
    rcases readWholeSigned numeral with same | negated
    · rw [same, read]
    · rw [negated, read]
      rfl
  · rw [if_neg (Nat.not_lt.mpr short)] at read
    refine Or.inr ⟨short, ?_⟩
    rcases readWholeSigned numeral with same | negated
    · exact ⟨_, same.trans read⟩
    · rw [negated, read]
      exact ⟨_, rfl⟩

end CollectionSearch.Number
