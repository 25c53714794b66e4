import CollectionSearch.Proofs.Query.Refusal
import CollectionSearch.Proofs.Text.Ascii

/-! Shapes of words in any case. A word and its lower case are comparisons and assignments alike, with the key and
the value in lower case. Only a Kelvin sign can give a key to a word that had none, and no key that is known has the
`k` that it comes to. -/
namespace CollectionSearch.Token

def marks : List CodePoint := [Piece.quote, .char '-', .char '@', .char ':', .char '>', .char '<', .char '=']

theorem markKept : ∀ mark ∈ marks, (mark ≠ .char 'Σ' ∧ Text.lowerChar mark = [mark]) ∧ Text.Untouched mark.toNat := by
  decide +kernel

theorem markSettled {mark : CodePoint} (isMark : mark ∈ marks) : Text.Settled mark := (markKept mark isMark).1

theorem markUntouched {mark : CodePoint} (isMark : mark ∈ marks) : Text.Untouched mark.toNat :=
  (markKept mark isMark).2

/- A colon is no divider: the end of a word is looked for behind it. -/
theorem markDivider {mark : CodePoint} (isMark : mark ∈ marks) (other : mark ≠ .char ':') : Text.Divider mark := by
  have apart : ∀ mark ∈ marks, mark ≠ .char ':' → Text.isCased mark = false ∧ Text.isIgnorable mark = false := by
    decide +kernel
  obtain ⟨uncased, regarded⟩ := apart mark isMark other
  exact ⟨uncased, regarded, markSettled isMark, markUntouched isMark⟩

theorem letterAscii {c : CodePoint} (letter : isLetter c = true) : Text.isAscii c = true := by
  simp only [isLetter, CodePoint.between, Bool.or_eq_true, Bool.and_eq_true, decide_eq_true_eq] at letter
  have capital : 'Z'.toNat < 0x80 ∧ 'z'.toNat < 0x80 := by decide
  exact decide_eq_true (by omega)

theorem letterLowered {c : CodePoint} (letter : isLetter c = true) : ∀ x ∈ Text.lowerChar c, isLetter x = true :=
  Text.eachAscii (p := fun c => isLetter c = true → ∀ x ∈ Text.lowerChar c, isLetter x = true) c (letterAscii letter)
    (by decide +kernel) letter

theorem letterSource {inWord : Bool} {c : CodePoint} {rest : Text}
    (letters : ∀ x ∈ Text.lowerAt inWord c rest, isLetter x = true) :
    isLetter c = true ∨ CodePoint.char 'k' ∈ Text.lowerAt inWord c rest := by
  by_cases ascii : Text.isAscii c = true
  · have other : c ≠ .char 'Σ' := by
      rintro rfl
      exact absurd ascii (by decide)
    rw [Text.lowerAt, if_neg other] at letters
    have source : (∀ x ∈ Text.lowerChar c, isLetter x = true) → isLetter c = true :=
      Text.eachAscii c ascii (by decide +kernel)
    exact .inl (source letters)
  · by_cases settled : Text.Settled c
    · rw [Text.settledKept settled] at letters
      exact .inl (letters c (List.mem_singleton_self c))
    · obtain ⟨x, here, outside⟩ := Text.lowerAtForeign (by simpa using ascii) settled inWord rest
      rcases outside with foreign | same
      · rw [letterAscii (letters x here)] at foreign
        contradiction
      · exact .inr (same ▸ here)

theorem keyFree {key : Text} (isKey : Key key) : .char 'Σ' ∉ key :=
  fun member => absurd (isKey.letters _ member) (by decide)

theorem keyLowered {key : Text} (isKey : Key key) : Key (Text.lower key) := by
  refine ⟨mt Text.lowerNilIff.mp isKey.some, fun x member => ?_⟩
  rw [Text.lower, Text.lowerFromFlat (keyFree isKey)] at member
  obtain ⟨c, inside, source⟩ := List.mem_flatMap.mp member
  exact letterLowered (isKey.letters c inside) x source

theorem keyedLowered {key symbol : Text} (isKey : Key key) (settled : ∀ c ∈ symbol, Text.Settled c) (value : Text) :
    ∃ inWord, Text.lower (key ++ symbol ++ value) = Text.lower key ++ symbol ++ Text.lowerFrom inWord value := by
  have symbolFree : .char 'Σ' ∉ symbol := fun member => (settled _ member).1 rfl
  have free : .char 'Σ' ∉ key ++ symbol :=
    fun member => (List.mem_append.mp member).elim (keyFree isKey) symbolFree
  have kept : symbol.flatMap Text.lowerChar = symbol := by
    rw [← Text.lowerFromFlat symbolFree false]
    exact Text.settledLower settled false
  refine ⟨(key ++ symbol).foldl Text.wordAfter false, (Text.lowerFromFree free false value).trans ?_⟩
  rw [List.flatMap_append, kept, Text.lower, Text.lowerFromFlat (keyFree isKey)]

theorem comparisonLowered {word key value : Text} {comparator : Comparator}
    (shape : Comparison word key comparator value) :
    ∃ inWord, Comparison (Text.lower word) (Text.lower key) comparator (Text.lowerFrom inWord value) := by
  have symbols : ∀ comparator ∈ [Comparator.above, .below, .atLeast, .atMost], ∀ c ∈ comparator.symbol, c ∈ marks := by
    decide
  have settled : ∀ c ∈ comparator.symbol, Text.Settled c :=
    fun c member => markSettled (symbols _ shape.ordered c member)
  obtain ⟨inWord, written⟩ := keyedLowered shape.isKey settled value
  refine ⟨inWord, shape.written ▸ written, keyLowered shape.isKey, shape.ordered,
    mt Text.lowerFromNilIff.mp shape.some, fun shorter c rest same => ?_⟩
  obtain ⟨d, more, split⟩ := Text.lowerFromHeads (markUntouched (by decide)) same
  exact shape.longest shorter d more split

theorem assignmentLowered {word key value : Text} (shape : Assignment word key value) :
    ∃ inWord, Assignment (Text.lower word) (Text.lower key) (Text.lowerFrom inWord value) := by
  have colon : ∀ c ∈ [CodePoint.char ':'], Text.Settled c :=
    fun c member => List.mem_singleton.mp member ▸ markSettled (by decide)
  obtain ⟨inWord, written⟩ := keyedLowered shape.isKey colon value
  rw [List.append_assoc, List.singleton_append, ← shape.written, List.append_assoc, List.singleton_append] at written
  exact ⟨inWord, written, keyLowered shape.isKey, mt Text.lowerFromNilIff.mp shape.some⟩

theorem keySource {inWord : Bool} {word key rest : Text} {mark : CodePoint}
    (letters : ∀ c ∈ key, isLetter c = true) (stops : isLetter mark = false)
    (untouched : Text.Untouched mark.toNat) (lowered : Text.lowerFrom inWord word = key ++ mark :: rest) :
    ∃ source more after, word = source ++ mark :: more ∧ rest = Text.lowerFrom after more ∧
      (source = [] → key = []) ∧ ((∀ c ∈ source, isLetter c = true) ∨ CodePoint.char 'k' ∈ key) := by
  induction word generalizing inWord key with
  | nil => exact absurd lowered.symm (by simp [Text.lowerFrom])
  | cons c word ih =>
    by_cases inside : mark ∈ Text.lowerAt inWord c word
    · -- the sign stands for itself, so no letters are left in front of it
      have same := Text.lowerAtUntouched untouched inside
      subst same
      rw [Text.lowerFrom, Text.settledKept (Text.lowerAtSettled inside)] at lowered
      cases key with
      | nil =>
        have none : ∀ c ∈ ([] : Text), isLetter c = true := fun c member => absurd member List.not_mem_nil
        exact ⟨[], word, _, rfl, (List.cons.inj lowered).2.symm, fun _ => rfl, .inl none⟩
      | cons letter others =>
        have head := letters letter List.mem_cons_self
        rw [← (List.cons.inj lowered).1, stops] at head
        contradiction
    · obtain ⟨later, front, tail⟩ : ∃ later, key = Text.lowerAt inWord c word ++ later ∧
          Text.lowerFrom (Text.wordAfter inWord c) word = later ++ mark :: rest := by
        rcases List.append_eq_append_iff.mp lowered with found | ⟨surplus, here, behind⟩
        · exact found
        · cases surplus with
          | nil => exact ⟨[], by simpa using here.symm, behind.symm⟩
          | cons x surplus =>
            rw [here, (List.cons.inj behind).1] at inside
            exact absurd (List.mem_append_right _ List.mem_cons_self) inside
      subst front
      obtain ⟨lettersHere, lettersLater⟩ := List.forall_mem_append.mp letters
      obtain ⟨source, more, after, rfl, behind, _, good⟩ := ih lettersLater tail
      refine ⟨c :: source, more, after, rfl, behind, fun none => absurd none (List.cons_ne_nil _ _), ?_⟩
      rcases letterSource lettersHere with letter | sign
      · exact good.imp (fun all => List.forall_mem_cons.mpr ⟨letter, all⟩) (List.mem_append_right _)
      · exact .inr (List.mem_append_left _ sign)

theorem comparisonSome {key rest : Text} {mark : CodePoint} (isKey : Key key)
    (isMark : mark ∈ [CodePoint.char '>', .char '<']) (some : rest ≠ []) :
    ∃ found, comparison? (key ++ mark :: rest) = .some found := by
  obtain ⟨c, more, rfl⟩ := List.exists_cons_of_ne_nil some
  simp only [List.mem_cons, List.not_mem_nil, or_false] at isMark
  rcases isMark with rfl | rfl
  · simp only [comparison?, splitKeyOf isKey aboveStops, Option.bind_eq_bind, Option.bind_some]
    split <;> simp_all
  · simp only [comparison?, splitKeyOf isKey belowStops, Option.bind_eq_bind, Option.bind_some]
    split <;> simp_all

theorem comparisonSource {word key value : Text} {comparator : Comparator}
    (shape : Comparison (Text.lower word) key comparator value) :
    (∃ found, comparison? word = some found) ∨ CodePoint.char 'k' ∈ key := by
  obtain ⟨mark, rest, written, isMark, some⟩ := comparisonMarked shape
  have angles : ∀ mark ∈ [CodePoint.char '>', .char '<'], isLetter mark = false ∧ mark ∈ marks := by decide
  obtain ⟨stops, listed⟩ := angles mark isMark
  obtain ⟨source, more, after, rfl, rfl, none, good⟩ :=
    keySource shape.isKey.letters stops (markUntouched listed) written
  refine good.imp_left (fun letters => ?_)
  exact comparisonSome ⟨mt none shape.isKey.some, letters⟩ isMark (mt Text.lowerFromNilIff.mpr some)

theorem assignmentSource {word key value : Text} (shape : Assignment (Text.lower word) key value) :
    (∃ source more, Assignment word source more) ∨ CodePoint.char 'k' ∈ key := by
  obtain ⟨source, more, after, written, rfl, none, good⟩ :=
    keySource shape.isKey.letters colonStops (markUntouched (by decide)) shape.written
  refine good.imp_left (fun letters => ⟨source, more, written, ?_, mt Text.lowerFromNilIff.mpr shape.some⟩)
  exact ⟨mt none shape.isKey.some, letters⟩

theorem numericUnknown {key : Text} (sign : CodePoint.char 'k' ∈ key) (comparator : Comparator) (value : Text) :
    numeric? key comparator value = .ok none := by
  have year : key ≠ "year".toText := fun same => absurd (same ▸ sign) (by decide)
  have rating : key ≠ "rating".toText := fun same => absurd (same ▸ sign) (by decide)
  rw [numeric?, if_neg year, if_neg rating]
  rfl

theorem assignedUnknown {key : Text} (sign : CodePoint.char 'k' ∈ key) (value : Text) :
    assigned? key value = .ok none := by
  have other {name : Text} (unsigned : .char 'k' ∉ name) : key ≠ name := fun same => unsigned (same ▸ sign)
  have exact : ¬ (key = "by".toText ∨ key = "from".toText) :=
    not_or.mpr ⟨other (by decide), other (by decide)⟩
  have unread : ¬ (key = "is".toText ∧ Text.lower value = "unread".toText) := fun both => other (by decide) both.1
  unfold assigned?
  dsimp only
  rw [if_neg (other (by decide)), if_neg (other (by decide)), if_neg exact, if_neg (other (by decide)),
    if_neg (other (by decide)), if_neg (other (by decide)), if_neg unread, numericUnknown sign]

end CollectionSearch.Token
