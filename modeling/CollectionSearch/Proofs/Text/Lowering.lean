import CollectionSearch.Proofs.Sequence
import CollectionSearch.Text.Case

/-! Lowering settles a text: whatever it gives is its own lower case, so lowering it again changes nothing. It brings
in no blanks and no quotes. No character folds to nothing, so a folded text is empty only if the text is. -/
namespace CollectionSearch.Text

theorem imageNotNil {stretches : List Stretch} {sequences : List (Nat × List Nat)} {c : CodePoint}
    {text : Text} (full : ∀ entry ∈ sequences, entry.2 ≠ [])
    (found : image? stretches sequences c = some text) : text ≠ [] := by
  unfold image? at found
  split at found
  · rename_i codes listed
    cases Option.some.inj found
    simpa using full _ (Sequence.lookupMem listed)
  · obtain ⟨n, _, rfl⟩ := Option.map_eq_some_iff.mp found
    simp

theorem mappedNotNil {stretches : List Stretch} {sequences : List (Nat × List Nat)} {c : CodePoint}
    {plain : Text} (full : ∀ entry ∈ sequences, entry.2 ≠ []) (some : plain ≠ []) :
    (image? stretches sequences c).getD plain ≠ [] := by
  cases found : image? stretches sequences c with
  | none => exact some
  | some text => exact imageNotNil full found

theorem lowerCharNotNil (c : CodePoint) : lowerChar c ≠ [] := by
  unfold lowerChar
  split
  · simp
  · exact mappedNotNil (by decide) (by simp)

theorem foldCharNotNil (c : CodePoint) : foldChar c ≠ [] := by
  unfold foldChar
  split
  · simp
  · exact mappedNotNil (by decide) (lowerCharNotNil c)

@[simp] theorem foldNilIff {s : Text} : fold s = [] ↔ s = [] := by
  constructor
  · intro empty
    cases s with
    | nil => rfl
    | cons c rest => exact absurd (List.append_eq_nil_iff.mp empty).1 (foldCharNotNil c)
  · rintro rfl
    rfl

end CollectionSearch.Text

namespace CollectionSearch
namespace CodePoint

theorem toNatOfNat {n : Nat} (valid : n < 0x110000) : (ofNat n).toNat = n := by
  unfold ofNat
  split
  · rename_i half
    show 0xD800 + (n - 0xD800) = n
    omega
  · rename_i whole
    have isChar : n.isValidChar := by
      simp only [Nat.isValidChar]
      omega
    show (Char.ofNat n).toNat = n
    rw [Char.ofNat, dif_pos isChar]
    rfl

end CodePoint

namespace Text
namespace Stretch

def reach (s : Stretch) : Nat := s.target + (s.last - s.first)

theorem imageWithin {s : Stretch} {m n : Nat} (image : s.image? m = some n) : s.target ≤ n ∧ n ≤ s.reach := by
  unfold image? at image
  split at image
  · cases image
    unfold reach
    omega
  · contradiction

theorem imageSource {s : Stretch} {m n : Nat} (image : s.image? m = some n) : s.first ≤ m ∧ m ≤ s.last := by
  unfold image? at image
  split at image
  · omega
  · contradiction

/- Whether no image of the first is moved by the second. Two stretches of every second code point may
interleave. The comparisons are Boolean because all pairs of the table are tried. -/
def apart (s t : Stretch) : Bool :=
  Nat.blt s.reach t.first || Nat.blt t.last s.target ||
    (t.step == 2 && (s.step == 2 || s.last == s.first) && s.target % 2 != t.first % 2)

theorem imageApart {s t : Stretch} (apart : s.apart t = true) {m n : Nat} (image : s.image? m = some n) :
    t.image? n = none := by
  have within := imageWithin image
  simp only [Stretch.apart, Bool.or_eq_true, Bool.and_eq_true, beq_iff_eq, bne_iff_ne, Nat.blt_eq] at apart
  unfold image? at image ⊢
  split at image
  · rename_i source
    cases image
    rw [if_neg]
    rintro ⟨least, most, stepped⟩
    rcases apart with (below | above) | ⟨⟨paired, steps⟩, parity⟩
    · omega
    · omega
    · rw [paired] at stepped
      rcases steps with two | one
      · rw [two] at source
        omega
      · have single : m - s.first = 0 := by omega
        rw [single] at stepped
        omega
  · contradiction

def avoids (s : Stretch) (first last : Nat) : Bool :=
  (Nat.blt last s.first || Nat.blt s.last first) && (Nat.blt last s.target || Nat.blt s.reach first)

theorem avoidsApart {s : Stretch} {first last : Nat} (avoids : s.avoids first last = true) :
    (last < s.first ∨ s.last < first) ∧ (last < s.target ∨ s.reach < first) := by
  simpa only [Stretch.avoids, Bool.and_eq_true, Bool.or_eq_true, Nat.blt_eq] using avoids

end Stretch

theorem lowerReach : ∀ s ∈ lowerStretches, s.reach < 0x110000 := by decide +kernel

def Untouched (n : Nat) : Prop :=
  (∀ s ∈ lowerStretches, n < s.target ∨ s.reach < n) ∧ n ∉ [0x69, 0x307, 0x3C2]

instance (n : Nat) : Decidable (Untouched n) := by unfold Untouched; infer_instance

def blanks : List Nat :=
  List.range' 0x09 5 ++ List.range' 0x1C 5 ++ [0x85, 0xA0, 0x1680] ++ List.range' 0x2000 11 ++
    [0x2028, 0x2029, 0x202F, 0x205F, 0x3000]

theorem memBlanks {c : CodePoint} (blank : isBlank c = true) : c.toNat ∈ blanks := by
  simp only [isBlank, Bool.or_eq_true, Bool.and_eq_true, decide_eq_true_eq, beq_iff_eq] at blank
  simp only [blanks, List.mem_append, List.mem_range'_1, List.mem_cons, List.not_mem_nil, or_false]
  omega

@[elab_as_elim]
theorem eachBlank {p : CodePoint → Prop} (c : CodePoint) (blank : isBlank c = true)
    (each : ∀ n ∈ blanks, p (.ofNat n)) : p c := CodePoint.ofNatToNat c ▸ each _ (memBlanks blank)

@[elab_as_elim]
theorem eachAscii {p : CodePoint → Prop} (c : CodePoint) (ascii : isAscii c = true)
    (each : ∀ n < 0x80, p (.ofNat n)) : p c :=
  CodePoint.ofNatToNat c ▸ each _ (by simpa [isAscii] using ascii)

def Image (x : CodePoint) : Prop := ∃ s ∈ lowerStretches, ∃ m, s.image? m = some x.toNat

theorem lowerCharAscii {c : CodePoint} (ascii : isAscii c = true) :
    lowerChar c = [c] ∨ ∃ s ∈ lowerStretches, ∃ x, s.image? c.toNat = some x.toNat ∧ lowerChar c = [x] := by
  have own : lowerChar c = [c] ∨
      ((⟨0x41, 0x5A, 1, 0x61⟩ : Stretch).image? c.toNat = some (CodePoint.ofNat (c.toNat + 0x20)).toNat ∧
        lowerChar c = [.ofNat (c.toNat + 0x20)]) := eachAscii c ascii (by decide +kernel)
  exact own.imp_right (fun ⟨image, lowered⟩ => ⟨_, List.mem_cons_self, _, image, lowered⟩)

theorem lowerCharCases (c : CodePoint) :
    lowerChar c = [c] ∨ c.toNat = 0x130 ∨
      ∃ s ∈ lowerStretches, ∃ y, s.image? c.toNat = some y.toNat ∧ lowerChar c = [y] := by
  by_cases ascii : isAscii c = true
  · exact (lowerCharAscii ascii).imp_right .inr
  · unfold lowerChar
    rw [if_neg ascii]
    cases image : image? lowerStretches lowerSequences c with
    | none => exact .inl rfl
    | some text =>
      unfold image? at image
      split at image
      · rename_i codes listed
        have only : ∀ entry ∈ lowerSequences, entry.1 = 0x130 := by decide
        exact .inr (.inl (only _ (Sequence.lookupMem listed)))
      · obtain ⟨n, found, rfl⟩ := Option.map_eq_some_iff.mp image
        obtain ⟨s, present, reached⟩ := List.exists_of_findSome?_eq_some found
        have valid : n < 0x110000 := Nat.lt_of_le_of_lt (Stretch.imageWithin reached).2 (lowerReach s present)
        exact .inr (.inr ⟨s, present, .ofNat n, by rw [CodePoint.toNatOfNat valid]; exact reached, rfl⟩)

theorem lowerCharSource (c : CodePoint) :
    lowerChar c = [c] ∨ ∀ x ∈ lowerChar c, x.toNat ∈ [0x69, 0x307] ∨ Image x := by
  rcases lowerCharCases c with same | dotted | ⟨s, present, y, image, lowered⟩
  · exact .inl same
  · have own : ∀ x ∈ lowerChar (.ofNat 0x130), x.toNat ∈ [0x69, 0x307] := by decide +kernel
    rw [← dotted, CodePoint.ofNatToNat] at own
    exact .inr (fun x member => .inl (own x member))
  · refine .inr (fun x member => .inr ⟨s, present, c.toNat, ?_⟩)
    rw [lowered, List.mem_singleton] at member
    exact member ▸ image

theorem lowerCharListed : ∀ n ∈ [0x69, 0x307, 0x3C2, 0x3C3], lowerChar (.ofNat n) = [.ofNat n] := by decide +kernel

theorem sigmasTouched : ¬ Untouched (CodePoint.char 'ς').toNat ∧ ¬ Untouched (CodePoint.char 'σ').toNat := by
  decide +kernel

theorem listedUntouched : ∀ n ∈ 0x22 :: 0x130 :: 0x3A3 :: blanks, Untouched n := by decide +kernel

theorem quotesUntouched : Untouched (CodePoint.char '\x22').toNat := listedUntouched _ (by decide)

theorem sigmaUntouched : Untouched (CodePoint.char 'Σ').toNat := listedUntouched _ (by decide)

theorem blanksUntouched {c : CodePoint} (blank : isBlank c = true) : Untouched c.toNat :=
  listedUntouched _ (by simp [memBlanks blank])

theorem lowerApart : lowerStretches.all (fun s => lowerStretches.all s.apart) = true := by decide +kernel

theorem imageOwn {x : CodePoint} (image : Image x) : lowerChar x = [x] := by
  obtain ⟨s, present, m, reached⟩ := image
  have none : ∀ t ∈ lowerStretches, t.image? x.toNat = .none :=
    fun t member => Stretch.imageApart (List.all_eq_true.mp (List.all_eq_true.mp lowerApart s present) t member) reached
  by_cases ascii : isAscii x = true
  · refine (lowerCharAscii ascii).resolve_right ?_
    rintro ⟨t, member, y, lowered, _⟩
    rw [none t member] at lowered
    contradiction
  · have dotted : Untouched 0x130 := listedUntouched _ (by decide)
    have unlisted : lowerSequences.lookup x.toNat = .none := by
      have within := Stretch.imageWithin reached
      have other : x.toNat ≠ 0x130 := by
        have beside := dotted.1 s present
        omega
      simp [lowerSequences, List.lookup_cons, beq_eq_false_iff_ne.mpr other]
    have passed : lowerStretches.findSome? (·.image? x.toNat) = .none := List.findSome?_eq_none_iff.mpr none
    simp [lowerChar, ascii, image?, unlisted, passed]

theorem lowerCharOwn {c x : CodePoint} (member : x ∈ lowerChar c) : lowerChar x = [x] := by
  rcases lowerCharSource c with same | sources
  · rw [same, List.mem_singleton] at member
    exact member ▸ same
  · rcases sources x member with dotted | image
    · have listed : [0x69, 0x307] ⊆ [0x69, 0x307, 0x3C2, 0x3C3] := by decide
      have own := lowerCharListed _ (listed dotted)
      rwa [CodePoint.ofNatToNat] at own
    · exact imageOwn image

theorem lowerCharUntouched {c x : CodePoint} (untouched : Untouched x.toNat) (member : x ∈ lowerChar c) : x = c := by
  rcases lowerCharSource c with same | sources
  · rwa [same, List.mem_singleton] at member
  · rcases sources x member with dotted | ⟨s, present, m, reached⟩
    · have listed : [0x69, 0x307] ⊆ [0x69, 0x307, 0x3C2] := by decide
      exact absurd (listed dotted) untouched.2
    · have within := Stretch.imageWithin reached
      have beside := untouched.1 s present
      omega

def Settled (c : CodePoint) : Prop := c ≠ .char 'Σ' ∧ lowerChar c = [c]

theorem lowerAtSettled {inWord : Bool} {c x : CodePoint} {rest : Text} (member : x ∈ lowerAt inWord c rest) :
    Settled x := by
  unfold lowerAt at member
  split at member
  · split at member
    · exact List.mem_singleton.mp member ▸ ⟨by decide, lowerCharListed 0x3C2 (by decide)⟩
    · exact List.mem_singleton.mp member ▸ ⟨by decide, lowerCharListed 0x3C3 (by decide)⟩
  · rename_i other
    refine ⟨?_, lowerCharOwn member⟩
    rintro rfl
    exact other (lowerCharUntouched sigmaUntouched member).symm

theorem lowerFromSettled {inWord : Bool} {s : Text} {x : CodePoint} (member : x ∈ lowerFrom inWord s) :
    Settled x := by
  induction s generalizing inWord with
  | nil => contradiction
  | cons c rest ih =>
    rcases List.mem_append.mp member with here | behind
    · exact lowerAtSettled here
    · exact ih behind

theorem settledKept {c : CodePoint} (settled : Settled c) (inWord : Bool) (rest : Text) :
    lowerAt inWord c rest = [c] := by
  rw [lowerAt, if_neg settled.1, settled.2]

theorem settledLower {s : Text} (settled : ∀ c ∈ s, Settled c) (inWord : Bool) : lowerFrom inWord s = s := by
  induction s generalizing inWord with
  | nil => rfl
  | cons c rest ih =>
    obtain ⟨here, behind⟩ := List.forall_mem_cons.mp settled
    rw [lowerFrom, settledKept here, ih behind]
    rfl

theorem lowerLowerFrom (inWord : Bool) (s : Text) : lower (lowerFrom inWord s) = lowerFrom inWord s :=
  settledLower (fun _ member => lowerFromSettled member) false

@[simp] theorem lowerLower (s : Text) : lower (lower s) = lower s := lowerLowerFrom false s

theorem lowerAtUntouched {inWord : Bool} {c x : CodePoint} {rest : Text} (untouched : Untouched x.toNat)
    (member : x ∈ lowerAt inWord c rest) : x = c := by
  unfold lowerAt at member
  split at member
  · split at member
    · exact absurd (List.mem_singleton.mp member ▸ untouched) sigmasTouched.1
    · exact absurd (List.mem_singleton.mp member ▸ untouched) sigmasTouched.2
  · exact lowerCharUntouched untouched member

theorem lowerFromUntouched {inWord : Bool} {s : Text} {x : CodePoint} (untouched : Untouched x.toNat)
    (member : x ∈ lowerFrom inWord s) : x ∈ s := by
  induction s generalizing inWord with
  | nil => contradiction
  | cons c rest ih =>
    rcases List.mem_append.mp member with here | behind
    · exact List.mem_cons.mpr (Or.inl (lowerAtUntouched untouched here))
    · exact List.mem_cons_of_mem _ (ih behind)

theorem lowerBlankless {s : Text} (full : ∀ c ∈ s, isBlank c = false) : ∀ c ∈ lower s, isBlank c = false := by
  intro c member
  by_contra blank
  rw [Bool.not_eq_false] at blank
  have original : c ∈ s := lowerFromUntouched (blanksUntouched blank) member
  simp [full c original] at blank

theorem lowerAtNotNil (inWord : Bool) (c : CodePoint) (rest : Text) : lowerAt inWord c rest ≠ [] := by
  unfold lowerAt
  split
  · exact List.cons_ne_nil _ _
  · exact lowerCharNotNil c

theorem lowerFromHead {inWord : Bool} {s rest : Text} {mark : CodePoint} (untouched : Untouched mark.toNat)
    (lowered : lowerFrom inWord s = mark :: rest) : ∃ after more, s = mark :: more ∧ rest = lowerFrom after more := by
  cases s with
  | nil => contradiction
  | cons c more =>
    obtain ⟨x, behind, here⟩ := List.exists_cons_of_ne_nil (lowerAtNotNil inWord c more)
    rw [lowerFrom, here, List.cons_append, List.cons.injEq] at lowered
    have inside : mark ∈ lowerAt inWord c more := by rw [here, lowered.1]; exact List.mem_cons_self
    have same := lowerAtUntouched untouched inside
    subst same
    rw [settledKept (lowerAtSettled inside), List.cons.injEq] at here
    exact ⟨_, more, rfl, by rw [← lowered.2, ← here.2]; rfl⟩

theorem lowerFromNilIff {inWord : Bool} {s : Text} : lowerFrom inWord s = [] ↔ s = [] := by
  constructor
  · intro empty
    cases s with
    | nil => rfl
    | cons c rest => exact absurd (List.append_eq_nil_iff.mp empty).1 (lowerAtNotNil inWord c rest)
  · rintro rfl
    rfl

@[simp] theorem lowerNilIff {s : Text} : lower s = [] ↔ s = [] := lowerFromNilIff

theorem lowerSome (c : CodePoint) (rest : Text) : lower (c :: rest) ≠ [] := mt lowerNilIff.mp (List.cons_ne_nil c rest)

theorem lowerFromHeads {inWord : Bool} {s rest : Text} {mark c : CodePoint} (untouched : Untouched mark.toNat)
    (lowered : lowerFrom inWord s = mark :: c :: rest) : ∃ d more, s = mark :: d :: more := by
  obtain ⟨after, more, rfl, behind⟩ := lowerFromHead untouched lowered
  have some : more ≠ [] := by
    rintro rfl
    exact absurd behind (List.cons_ne_nil c rest)
  obtain ⟨d, others, rfl⟩ := List.exists_cons_of_ne_nil some
  exact ⟨d, others, rfl⟩

end Text
end CollectionSearch
