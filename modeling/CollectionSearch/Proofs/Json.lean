import CollectionSearch.Json.Reader

/-! Values read and displayed. Two limits to what is open at once make a difference to a value only if one of them
is exceeded. What is displayed can be seen: digits and signs are no blanks, so of all values only a text can be
displayed by blanks alone. -/
namespace CollectionSearch
namespace Json

inductive Agree {α : Type} : Except Flaw α → Except Flaw α → Prop where
  | same (result : Except Flaw α) : Agree result result
  | first (inArray : Bool) (result : Except Flaw α) : Agree (.error (.nested inArray)) result
  | second (result : Except Flaw α) (inArray : Bool) : Agree result (.error (.nested inArray))

theorem agreeBind {α β : Type} {a b : Except Flaw α} {f g : α → Except Flaw β} (agree : Agree a b)
    (next : ∀ value, Agree (f value) (g value)) : Agree (a >>= f) (b >>= g) := by
  cases agree with
  | same =>
    cases a with
    | error flaw => exact .same _
    | ok value => exact next value
  | first inArray result => exact .first inArray _
  | second result inArray => exact .second _ inArray

theorem agreeOpen (a b : Nat) (outer : List Frame) (inArray : Bool) (place : Place) :
    Agree (if a ≤ outer.length then .error (.nested inArray) else .ok place)
      (if b ≤ outer.length then .error (.nested inArray) else .ok place) := by
  split
  · exact .first inArray _
  · split
    · exact .second _ inArray
    · exact .same _

theorem agreeStart (a b : Nat) (outer : List Frame) (left : Nat) (lexeme : Lexeme) :
    Agree (Place.start a outer left lexeme) (Place.start b outer left lexeme) := by
  cases lexeme with
  | openArray => exact agreeOpen a b outer true _
  | openObject => exact agreeOpen a b outer false _
  | closeArray | closeObject | comma | colon | scalar | text | oversized | broken | unreadable => exact .same _

theorem agreeStep (a b : Nat) (place : Place) (lexeme : Nat × Lexeme) :
    Agree (Place.step a place lexeme) (Place.step b place lexeme) := by
  obtain ⟨left, lexeme⟩ := lexeme
  cases place with
  | value outer => exact agreeStart a b outer left lexeme
  | itemOrEnd outer =>
    cases lexeme with
    | closeArray => exact .same _
    | openArray | openObject | closeObject | comma | colon | scalar | text | oversized | broken | unreadable =>
      simp only [Place.step]
      exact agreeStart a b _ left _
  | afterItem | keyOrEnd | key | afterKey | afterMember | finished => cases lexeme <;> exact .same _

theorem agreeSteps (a b : Nat) (lexemes : List (Nat × Lexeme)) (place : Place) :
    Agree (lexemes.foldlM (Place.step a) place) (lexemes.foldlM (Place.step b) place) := by
  induction lexemes generalizing place with
  | nil => exact .same _
  | cons lexeme rest ih => exact agreeBind (agreeStep a b place lexeme) ih

theorem agreeRead (a b : Nat) (s : Text) : Agree (read a s) (read b s) := by
  unfold read
  dsimp only
  split
  · exact .same _
  · exact agreeBind (agreeSteps a b _ _) (fun _ => .same _)

end Json


namespace Text

@[simp] theorem blankOnlyCons (c : CodePoint) (s : Text) : isBlankOnly (c :: s) = (isBlank c && isBlankOnly s) := rfl

@[simp] theorem blankOnlyAppend (s t : Text) : isBlankOnly (s ++ t) = (isBlankOnly s && isBlankOnly t) := List.all_append

theorem digitFull {c : CodePoint} (lower : 0x30 ≤ c.toNat) (upper : c.toNat ≤ 0x39) : isBlank c = false := by
  rw [← Bool.not_eq_true]
  intro blank
  simp only [isBlank, Bool.or_eq_true, Bool.and_eq_true, decide_eq_true_eq, beq_iff_eq] at blank
  omega

theorem ofNatFull {n : Nat} {c : CodePoint} (member : c ∈ ofNat n) : isBlank c = false := by
  obtain ⟨digit, listed, rfl⟩ := List.mem_map.mp member
  have between : 0x30 ≤ digit.toNat ∧ digit.toNat ≤ 0x39 := by
    simpa [Char.isDigit, UInt32.le_iff_toNat_le] using Nat.isDigit_of_mem_toDigits (by decide) (by decide) listed
  exact digitFull between.1 between.2

theorem ofNatSeen (n : Nat) : isBlankOnly (ofNat n) = false := by
  have some : Nat.toDigits 10 n ≠ [] := Nat.toDigits_ne_nil
  obtain ⟨d, more, digits⟩ := List.exists_cons_of_ne_nil some
  have full : isBlank (.char d) = false := ofNatFull (List.mem_map_of_mem (digits ▸ List.mem_cons_self))
  simp [ofNat, digits, full]

theorem ofIntSeen (n : Int) : isBlankOnly (ofInt n) = false := by
  cases n with
  | ofNat n => exact ofNatSeen n
  | negSucc n => rfl

end Text

theorem Decimal.digitsStart (d : Decimal) : ∃ c rest, d.digits = c :: rest ∧ Text.isBlank c = false := by
  have kept : ∀ c ∈ ((Text.ofNat d.significand).reverse.dropWhile (· == .char '0')).reverse, Text.isBlank c = false := by
    intro c member
    exact Text.ofNatFull (List.mem_reverse.mp ((List.dropWhile_subset _) (List.mem_reverse.mp member)))
  unfold digits
  split
  · exact ⟨_, [], rfl, by decide⟩
  · rename_i ds some
    obtain ⟨c, rest, shape⟩ := List.exists_cons_of_ne_nil some
    exact ⟨c, rest, shape, kept c (shape ▸ List.mem_cons_self)⟩

namespace Layout

theorem positionalSeen (pointed : Bool) {c : CodePoint} (full : Text.isBlank c = false) (rest : Text) (e : Int) :
    Text.isBlankOnly (positional pointed (c :: rest) e) = false := by
  cases e with
  | ofNat e => simp [positional, full]
  | negSucc e => rfl

theorem writeSeen (layout : Layout) (d : Decimal) : Text.isBlankOnly (layout.write d) = false := by
  obtain ⟨c, rest, shape, full⟩ := d.digitsStart
  unfold write
  rw [shape]
  split
  · exact positionalSeen _ full rest _
  · simp [scientific, full]

end Layout

theorem Binary64.textSeen (x : Binary64) : Text.isBlankOnly x.text = false := by
  cases x with
  | nan => rfl
  | infinite negative => cases negative <;> rfl
  | finite negative quanta => simp [text, textWith, Layout.writeSeen]

theorem Number.textSeen (n : Number) : Text.isBlankOnly n.text = false := by
  cases n with
  | whole n => exact Text.ofIntSeen n
  | real x => exact x.textSeen

namespace Json

theorem displayBlank {value : Json} (blank : Text.isBlankOnly value.display = true) :
    ∃ text, value = .text text ∧ Text.isBlankOnly text = true := by
  cases value with
  | text text => exact ⟨text, rfl, blank⟩
  | null => cases blank
  | flag value => cases value <;> cases blank
  | number value => simp [display, nested, value.textSeen] at blank
  | array items => cases blank
  | object members => cases blank

end Json
end CollectionSearch
