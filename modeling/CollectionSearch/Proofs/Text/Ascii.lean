import CollectionSearch.Number.Reading
import CollectionSearch.Proofs.Text.Lowering
import Mathlib.Data.List.TakeWhile

/-! Lowering and ASCII. Behind a blank or a quote a text is lowered as if it began there, so it makes no difference
whether it is cut before or after lowering. Digits and ASCII other than capitals are kept; what else is lowered leaves
a character outside ASCII behind, or the `k` of the Kelvin sign. Of the characters around it a text depends only with
a capital sigma in it, and such a text is never lowered to ASCII. -/
namespace CollectionSearch.Text

/- What lowering keeps, comes to from nothing else, and does not look past for the end of a word. -/
structure Divider (c : CodePoint) : Prop where
  uncased : isCased c = false
  regarded : isIgnorable c = false
  settled : Settled c
  untouched : Untouched c.toNat

theorem blankDivider {c : CodePoint} (blank : isBlank c = true) : Divider c := by
  have apart : isCased c = false ∧ isIgnorable c = false ∧ c ≠ .char 'Σ' ∧ lowerChar c = [c] :=
    eachBlank c blank (by decide +kernel)
  obtain ⟨uncased, regarded, settled⟩ := apart
  exact ⟨uncased, regarded, settled, blanksUntouched blank⟩

theorem wordContinuesDivided {d : CodePoint} (divider : Divider d) (front rest : Text) :
    wordContinues (front ++ d :: rest) = wordContinues front := by
  unfold wordContinues
  rw [Sequence.dropWhileStopped divider.regarded]
  cases front.dropWhile isIgnorable with
  | nil => exact divider.uncased
  | cons c front => rfl

theorem lowerFromDivider {d : CodePoint} (divider : Divider d) (inWord : Bool) (rest : Text) :
    lowerFrom inWord (d :: rest) = d :: lower rest := by
  rw [lowerFrom, settledKept divider.settled, wordAfter, divider.regarded, divider.uncased]
  rfl

theorem lowerDivider {d : CodePoint} (divider : Divider d) (rest : Text) : lower (d :: rest) = d :: lower rest :=
  lowerFromDivider divider false rest

theorem lowerFromDivided {d : CodePoint} (divider : Divider d) (inWord : Bool) (front rest : Text) :
    lowerFrom inWord (front ++ d :: rest) = lowerFrom inWord front ++ d :: lower rest := by
  induction front generalizing inWord with
  | nil => exact lowerFromDivider divider inWord rest
  | cons c front ih =>
    have here : lowerAt inWord c (front ++ d :: rest) = lowerAt inWord c front := by
      unfold lowerAt
      rw [wordContinuesDivided divider]
    rw [List.cons_append, lowerFrom, here, ih, lowerFrom, List.append_assoc]

theorem lowerStopped {p : CodePoint → Bool} (dividers : ∀ c, p c = false → Divider c) (s : Text) :
    (lower s).takeWhile p = lower (s.takeWhile p) ∧ (lower s).dropWhile p = lower (s.dropWhile p) := by
  have whole : s.takeWhile p ++ s.dropWhile p = s := List.takeWhile_append_dropWhile
  -- a divider in the lower case of the front would stand in the front
  have front : ∀ x ∈ lower (s.takeWhile p), p x = true := by
    intro x member
    by_contra fails
    rw [Bool.not_eq_true] at fails
    have original := lowerFromUntouched (dividers x fails).untouched member
    rw [List.mem_takeWhile_imp original] at fails
    contradiction
  have stop := List.head?_dropWhile_not p s
  cases behind : s.dropWhile p with
  | nil =>
    rw [behind, List.append_nil] at whole
    rw [whole] at front ⊢
    exact ⟨List.takeWhile_eq_self_iff.mpr front, List.dropWhile_eq_nil_iff.mpr front⟩
  | cons d rest =>
    have fails : p d = false := by simpa [behind] using stop
    have divided : lower s = lower (s.takeWhile p) ++ d :: lower rest := by
      conv => lhs; rw [← whole, behind]
      exact lowerFromDivided (dividers d fails) false _ rest
    rw [divided, Sequence.takeWhileStopped fails, Sequence.dropWhileStopped fails,
      List.takeWhile_eq_self_iff.mpr front, List.dropWhile_eq_nil_iff.mpr front, lowerDivider (dividers d fails)]
    exact ⟨rfl, rfl⟩

theorem digitsApart : zeros.all (fun start => lowerStretches.all (·.avoids start (start + 9))) = true := by
  decide +kernel

theorem digitsUnlisted : ∀ start ∈ zeros, ∀ n ∈ [0x69, 0x130, 0x307, 0x3C2], n < start ∨ start + 9 < n := by
  decide +kernel

theorem decimalApart {c : CodePoint} (decimal : isDecimal c = true) :
    (∀ s ∈ lowerStretches, (c.toNat < s.first ∨ s.last < c.toNat) ∧ (c.toNat < s.target ∨ s.reach < c.toNat)) ∧
      c.toNat ∉ [0x69, 0x130, 0x307, 0x3C2] := by
  obtain ⟨d, value⟩ := Option.isSome_iff_exists.mp decimal
  obtain ⟨start, found, _⟩ := Option.map_eq_some_iff.mp value
  have within := List.find?_some found
  simp only [Bool.and_eq_true, decide_eq_true_eq] at within
  have present := List.mem_of_find?_eq_some found
  have stretches := List.all_eq_true.mp (List.all_eq_true.mp digitsApart start present)
  refine ⟨fun s member => ?_, fun listed => ?_⟩
  · have apart := Stretch.avoidsApart (stretches s member)
    omega
  · have apart := digitsUnlisted start present _ listed
    omega

theorem decimalUntouched {c : CodePoint} (decimal : isDecimal c = true) : Untouched c.toNat := by
  obtain ⟨stretches, others⟩ := decimalApart decimal
  refine ⟨fun s member => (stretches s member).2, fun listed => others ?_⟩
  simp only [List.mem_cons, List.not_mem_nil, or_false] at listed ⊢
  omega

theorem decimalSettled {c : CodePoint} (decimal : isDecimal c = true) : Settled c := by
  obtain ⟨stretches, others⟩ := decimalApart decimal
  refine ⟨?_, ?_⟩
  · rintro rfl
    exact absurd decimal (by decide +kernel)
  · rcases lowerCharCases c with same | dotted | ⟨s, present, y, image, _⟩
    · exact same
    · exact absurd (by simp [dotted]) others
    · have source := Stretch.imageSource image
      have apart := (stretches s present).1
      omega

theorem lowerFromMem {s : Text} {c : CodePoint} (member : c ∈ s) (inWord : Bool) :
    ∃ before rest, ∀ x ∈ lowerAt before c rest, x ∈ lowerFrom inWord s := by
  induction s generalizing inWord with
  | nil => contradiction
  | cons head tail ih =>
    rcases List.mem_cons.mp member with rfl | later
    · exact ⟨inWord, tail, fun x here => List.mem_append_left _ here⟩
    · obtain ⟨before, rest, inside⟩ := ih later (wordAfter inWord head)
      exact ⟨before, rest, fun x here => List.mem_append_right _ (inside x here)⟩

theorem lowerFromOwn {inWord : Bool} {s : Text} (own : ∀ x ∈ lowerFrom inWord s, Untouched x.toNat) :
    lowerFrom inWord s = s := by
  refine settledLower (fun c member => ?_) inWord
  obtain ⟨before, rest, inside⟩ := lowerFromMem member inWord
  obtain ⟨x, here⟩ := List.exists_mem_of_ne_nil _ (lowerAtNotNil before c rest)
  exact lowerAtUntouched (own x (inside x here)) here ▸ lowerAtSettled here

theorem asciiTargets : ∀ s ∈ lowerStretches, 0x80 ≤ s.target ∨ s.last < 0x80 ∨ (s.target = 0x6B ∧ s.reach = 0x6B) := by
  decide +kernel

theorem asciiImage {s : Stretch} (present : s ∈ lowerStretches) {m n : Nat} (image : s.image? m = some n)
    (ascii : n < 0x80) : m < 0x80 ∨ n = 0x6B := by
  have within := Stretch.imageWithin image
  have source := Stretch.imageSource image
  have target := asciiTargets s present
  omega

theorem lowerAtForeign {c : CodePoint} (foreign : isAscii c = false) (moved : ¬ Settled c) (inWord : Bool) (rest : Text) :
    ∃ x ∈ lowerAt inWord c rest, isAscii x = false ∨ x = .char 'k' := by
  unfold lowerAt
  split
  · split
    · exact ⟨_, List.mem_singleton_self _, .inl (by decide)⟩
    · exact ⟨_, List.mem_singleton_self _, .inl (by decide)⟩
  · rename_i other
    rcases lowerCharCases c with same | dotted | ⟨s, present, y, image, lowered⟩
    · exact absurd ⟨other, same⟩ moved
    · have dot : CodePoint.ofNat 0x307 ∈ lowerChar (.ofNat 0x130) := by decide +kernel
      rw [← dotted, CodePoint.ofNatToNat] at dot
      exact ⟨_, dot, .inl (by decide)⟩
    · refine ⟨y, lowered ▸ List.mem_singleton_self y, ?_⟩
      by_cases ascii : isAscii y = true
      · have source := asciiImage present image (by simpa [isAscii] using ascii)
        have far : ¬ c.toNat < 0x80 := by simpa [isAscii] using foreign
        have kelvin := CodePoint.ofNatToNat y
        rw [source.resolve_left far] at kelvin
        exact .inr kelvin.symm
      · exact .inl (by simpa using ascii)

theorem lowerFromFree {front : Text} (free : .char 'Σ' ∉ front) (inWord : Bool) (rest : Text) :
    lowerFrom inWord (front ++ rest) = front.flatMap lowerChar ++ lowerFrom (front.foldl wordAfter inWord) rest := by
  induction front generalizing inWord with
  | nil => rfl
  | cons c front ih =>
    have other : c ≠ .char 'Σ' := fun same => free (same ▸ List.mem_cons_self)
    rw [List.cons_append, lowerFrom, lowerAt, if_neg other, ih (fun member => free (List.mem_cons_of_mem _ member)),
      List.flatMap_cons, List.append_assoc, List.foldl_cons]

theorem lowerFromFlat {s : Text} (free : .char 'Σ' ∉ s) (inWord : Bool) : lowerFrom inWord s = s.flatMap lowerChar := by
  simpa [lowerFrom] using lowerFromFree free inWord []

theorem sigmaLowered {s : Text} (member : .char 'Σ' ∈ s) (inWord : Bool) :
    ∃ x ∈ lowerFrom inWord s, isAscii x = false := by
  obtain ⟨before, rest, inside⟩ := lowerFromMem member inWord
  unfold lowerAt at inside
  rw [if_pos rfl] at inside
  refine ⟨_, inside _ (List.mem_singleton_self _), ?_⟩
  split <;> decide

theorem lowerFromAscii {s word : Text} (ascii : ∀ c ∈ word, isAscii c = true) (inWord : Bool) :
    lowerFrom inWord s = word ↔ lower s = word := by
  have free {before : Bool} (lowered : lowerFrom before s = word) : .char 'Σ' ∉ s := by
    intro member
    obtain ⟨x, inside, foreign⟩ := sigmaLowered member before
    rw [ascii x (lowered ▸ inside)] at foreign
    contradiction
  constructor
  · intro lowered
    rw [lower, lowerFromFlat (free lowered), ← lowerFromFlat (free lowered) inWord, lowered]
  · intro lowered
    rw [lowerFromFlat (free lowered), ← lowerFromFlat (free lowered) false]
    exact lowered

end CollectionSearch.Text
