import CollectionSearch.Proofs.Text.Lowering

/-! Lowering and folding agree: a text and its lower case fold alike, whichever sigma lowering chose. Blanks are
folded to themselves, and nothing else is folded to one. -/
namespace CollectionSearch.Text

structure FoldsLike (m n : Nat) : Prop where
  sequences : foldSequences.lookup m = foldSequences.lookup n
  stretches : foldStretches.findSome? (·.image? m) = foldStretches.findSome? (·.image? n)

instance (m n : Nat) : Decidable (FoldsLike m n) :=
  decidable_of_iff (foldSequences.lookup m = foldSequences.lookup n ∧
    foldStretches.findSome? (·.image? m) = foldStretches.findSome? (·.image? n))
    ⟨fun both => ⟨both.1, both.2⟩, fun like => ⟨like.sequences, like.stretches⟩⟩

theorem foldImageLike {c d : CodePoint} (like : FoldsLike c.toNat d.toNat) :
    image? foldStretches foldSequences c = image? foldStretches foldSequences d := by
  unfold image?
  rw [like.sequences, like.stretches]

theorem foldCharImage (c : CodePoint) :
    foldChar c = (image? foldStretches foldSequences c).getD (lowerChar c) := by
  by_cases ascii : isAscii c = true
  · have own : image? foldStretches foldSequences c = none := eachAscii c ascii (by decide +kernel)
    simp [foldChar, lowerChar, ascii, own]
  · simp [foldChar, ascii]

theorem foldCharBlank {c : CodePoint} (blank : isBlank c = true) : foldChar c = [c] :=
  eachBlank c blank (by decide +kernel)

theorem foldBlanks {s : Text} (blank : ∀ c ∈ s, isBlank c = true) : fold s = s := by
  induction s with
  | nil => rfl
  | cons c rest ih =>
    have behind := ih (fun x member => blank x (List.mem_cons_of_mem _ member))
    show foldChar c ++ fold rest = c :: rest
    rw [foldCharBlank (blank c List.mem_cons_self), behind]
    rfl

theorem foldImageFilled {c x : CodePoint} {text : Text} (image : image? foldStretches foldSequences c = some text)
    (member : x ∈ text) : isBlank x = false := by
  unfold image? at image
  split at image
  · rename_i codes listed
    cases image
    have full : ∀ entry ∈ foldSequences, ∀ x ∈ entry.2.map CodePoint.ofNat, isBlank x = false := by decide +kernel
    exact full _ (Sequence.lookupMem listed) x member
  · obtain ⟨n, found, rfl⟩ := Option.map_eq_some_iff.mp image
    obtain ⟨s, present, reached⟩ := List.exists_of_findSome?_eq_some found
    have beside : ∀ s ∈ foldStretches, s.reach < 0x110000 ∧ ∀ b ∈ blanks, b < s.target ∨ s.reach < b := by
      decide +kernel
    have within := Stretch.imageWithin reached
    obtain ⟨valid, apart⟩ := beside s present
    by_contra blank
    rw [List.mem_singleton.mp member, Bool.not_eq_false] at blank
    have listed := apart _ (memBlanks blank)
    rw [CodePoint.toNatOfNat (by omega)] at listed
    omega

theorem foldBlankless {s : Text} (full : ∀ c ∈ s, isBlank c = false) : ∀ c ∈ fold s, isBlank c = false := by
  intro x member
  obtain ⟨c, present, inside⟩ := List.mem_flatMap.mp member
  rw [foldCharImage] at inside
  cases image : image? foldStretches foldSequences c with
  | some text =>
    rw [image, Option.getD_some] at inside
    exact foldImageFilled image inside
  | none =>
    rw [image, Option.getD_none] at inside
    by_contra blank
    rw [Bool.not_eq_false] at blank
    have same := lowerCharUntouched (blanksUntouched blank) inside
    rw [same, full c present] at blank
    contradiction

theorem foldListed : fold (lowerChar (.ofNat 0x130)) = foldChar (.ofNat 0x130) ∧
    fold [.char 'ς'] = foldChar (.char 'Σ') ∧ fold [.char 'σ'] = foldChar (.char 'Σ') := by decide +kernel

namespace Stretch

/- Only stretches that meet an entry of folding are tried point by point. -/
def foldsAlong (s : Stretch) : Bool :=
  (foldSequences.all (fun entry => s.avoids entry.1 entry.1) && foldStretches.all (fun t => s.avoids t.first t.last)) ||
    (List.range' s.first (s.last + 1 - s.first)).all (fun m => (s.image? m).all (FoldsLike m))

theorem foldsLikeApart {s : Stretch} (sequences : foldSequences.all (fun entry => s.avoids entry.1 entry.1) = true)
    (stretches : foldStretches.all (fun t => s.avoids t.first t.last) = true) {m n : Nat}
    (image : s.image? m = some n) : FoldsLike m n := by
  have within := imageWithin image
  have source := imageSource image
  have unlisted : ∀ k, k = m ∨ k = n → foldSequences.lookup k = none := by
    intro k either
    refine List.lookup_eq_none_iff.mpr (fun entry member => ?_)
    have apart := avoidsApart (List.all_eq_true.mp sequences entry member)
    exact bne_iff_ne.mpr (by omega)
  have passed : ∀ k, k = m ∨ k = n → foldStretches.findSome? (·.image? k) = none := by
    intro k either
    refine List.findSome?_eq_none_iff.mpr (fun t member => ?_)
    have apart := avoidsApart (List.all_eq_true.mp stretches t member)
    exact if_neg (by omega)
  exact ⟨by rw [unlisted m (.inl rfl), unlisted n (.inr rfl)], by rw [passed m (.inl rfl), passed n (.inr rfl)]⟩

end Stretch

theorem lowerFoldsAlong : lowerStretches.all Stretch.foldsAlong = true := by decide +kernel

theorem foldLikeImage {s : Stretch} (present : s ∈ lowerStretches) {m n : Nat} (image : s.image? m = some n) :
    FoldsLike m n := by
  have along := List.all_eq_true.mp lowerFoldsAlong s present
  unfold Stretch.foldsAlong at along
  rcases Bool.or_eq_true_iff.mp along with apart | each
  · obtain ⟨sequences, stretches⟩ := Bool.and_eq_true_iff.mp apart
    exact Stretch.foldsLikeApart sequences stretches image
  · have source := Stretch.imageSource image
    have inside : m ∈ List.range' s.first (s.last + 1 - s.first) := List.mem_range'_1.mpr (by omega)
    have all := List.all_eq_true.mp each m inside
    rw [image, Option.all_some] at all
    exact of_decide_eq_true all

theorem foldLowerChar (c : CodePoint) : fold (lowerChar c) = foldChar c := by
  rcases lowerCharCases c with same | dotted | ⟨s, present, y, image, lowered⟩
  · rw [same]
    exact List.append_nil _
  · have own := foldListed.1
    rwa [← dotted, CodePoint.ofNatToNat] at own
  · have settled : lowerChar y = [y] := imageOwn ⟨s, present, c.toNat, image⟩
    calc fold (lowerChar c) = foldChar y := by rw [lowered]; exact List.append_nil _
      _ = (image? foldStretches foldSequences c).getD [y] := by
        rw [foldCharImage, settled, foldImageLike (foldLikeImage present image)]
      _ = foldChar c := by rw [foldCharImage, lowered]

theorem foldLowerAt (inWord : Bool) (c : CodePoint) (rest : Text) : fold (lowerAt inWord c rest) = foldChar c := by
  unfold lowerAt
  split
  · rename_i sigma
    rw [sigma]
    split
    · exact foldListed.2.1
    · exact foldListed.2.2
  · exact foldLowerChar c

theorem foldLowerFrom (inWord : Bool) (s : Text) : fold (lowerFrom inWord s) = fold s := by
  induction s generalizing inWord with
  | nil => rfl
  | cons c rest ih =>
    rw [lowerFrom, foldAppend, foldLowerAt, ih]
    rfl

@[simp] theorem foldLower (s : Text) : fold (lower s) = fold s := foldLowerFrom false s

theorem foldInfix {s t : Text} (inside : s <:+: t) : fold s <:+: fold t := by
  obtain ⟨front, behind, rfl⟩ := inside
  exact ⟨fold front, fold behind, by simp only [foldAppend]⟩

end CollectionSearch.Text
