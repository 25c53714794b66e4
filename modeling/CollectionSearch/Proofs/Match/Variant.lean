import CollectionSearch.Proofs.Match.Tiers
import CollectionSearch.Proofs.Text.Trimming

/-! Variants of a text: what lowering, folding and a change of its outer blanks make of it, in any order. Folding
settles a text and goes with trimming, so all variants have one trimmed and folded form, on which alone closeness
depends. -/
namespace CollectionSearch
namespace Text

inductive Variant (s : Text) : Text → Prop where
  | same : Variant s s
  | lowered {t : Text} (variant : Variant s t) : Variant s (lower t)
  | folded {t : Text} (variant : Variant s t) : Variant s (fold t)
  | padded {front t behind : Text} (before : ∀ c ∈ front, isBlank c = true) (after : ∀ c ∈ behind, isBlank c = true)
    (variant : Variant s t) : Variant s (front ++ t ++ behind)
  | stripped {front t behind : Text} (before : ∀ c ∈ front, isBlank c = true) (after : ∀ c ∈ behind, isBlank c = true)
    (variant : Variant s (front ++ t ++ behind)) : Variant s t

theorem foldSequencesSettled : ∀ entry ∈ foldSequences, fold (entry.2.map .ofNat) = entry.2.map .ofNat := by
  decide +kernel

theorem foldStretchesSettled : ∀ s ∈ foldStretches, ∀ n ∈ List.range' s.target (s.last + 1 - s.first),
    fold [.ofNat n] = [.ofNat n] := by decide +kernel

theorem foldFoldChar (c : CodePoint) : fold (foldChar c) = foldChar c := by
  cases image : image? foldStretches foldSequences c with
  | none =>
    have plain : foldChar c = lowerChar c := by rw [foldCharImage, image, Option.getD_none]
    rw [plain, foldLowerChar, plain]
  | some text =>
    have mapped : foldChar c = text := by rw [foldCharImage, image, Option.getD_some]
    rw [mapped]
    unfold image? at image
    split at image
    · rename_i codes listed
      cases image
      exact foldSequencesSettled _ (Sequence.lookupMem listed)
    · obtain ⟨n, found, rfl⟩ := Option.map_eq_some_iff.mp image
      obtain ⟨s, present, reached⟩ := List.exists_of_findSome?_eq_some found
      have within := Stretch.imageWithin reached
      have source := Stretch.imageSource reached
      unfold Stretch.reach at within
      exact foldStretchesSettled s present n (List.mem_range'_1.mpr (by omega))

@[simp] theorem foldFold (s : Text) : fold (fold s) = fold s := by
  induction s with
  | nil => rfl
  | cons c rest ih =>
    show fold (foldChar c ++ fold rest) = foldChar c ++ fold rest
    rw [foldAppend, foldFoldChar, ih]

theorem foldCharFilled {c x : CodePoint} (full : isBlank c = false) (member : x ∈ foldChar c) : isBlank x = false := by
  have alone : ∀ d ∈ [c], isBlank d = false := fun d present => List.mem_singleton.mp present ▸ full
  exact foldBlankless alone x (by simpa [fold] using member)

theorem foldTrimmed {s : Text} (trimmed : Trimmed s) : Trimmed (fold s) where
  first x starts := by
    cases s with
    | nil => cases starts
    | cons c rest =>
      obtain ⟨y, more, folded⟩ := List.exists_cons_of_ne_nil (foldCharNotNil c)
      have front : (foldChar c ++ fold rest).head? = some x := starts
      rw [folded] at front
      obtain rfl := Option.some.inj front
      exact foldCharFilled (trimmed.first c rfl) (folded ▸ List.mem_cons_self)
  last x ends := by
    rcases List.eq_nil_or_concat s with rfl | ⟨front, c, rfl⟩
    · cases ends
    · obtain ⟨more, y, folded⟩ := (List.eq_nil_or_concat (foldChar c)).resolve_left (foldCharNotNil c)
      have alone : fold [c] = foldChar c := List.append_nil _
      rw [List.concat_eq_append, foldAppend, alone, folded, List.concat_eq_append, ← List.append_assoc,
        List.getLast?_concat] at ends
      obtain rfl := Option.some.inj ends
      exact foldCharFilled (trimmed.last c (by simp)) (by simp [folded])

theorem trimFold (s : Text) : trim (fold s) = fold (trim s) := by
  obtain ⟨front, behind, split, before, after⟩ := trimSplit s
  have folded : fold s = front ++ fold (trim s) ++ behind := by
    conv => lhs; rw [split, foldAppend, foldAppend, foldBlanks before, foldBlanks after]
  rw [folded]
  exact trimAround before (foldTrimmed (trimTrimmed s)) after

theorem variantForm {s t : Text} (variant : Variant s t) : fold (trim t) = fold (trim s) := by
  induction variant with
  | same => rfl
  | lowered _ ih => rw [← trimFold, foldLower, trimFold, ih]
  | folded _ ih => rw [← trimFold, foldFold, trimFold, ih]
  | padded before after _ ih => rw [trimPadded before after, ih]
  | stripped before after _ ih => rw [← ih, trimPadded before after]

theorem blankForm (s : Text) : isBlankOnly s = true ↔ fold (trim s) = [] := by rw [foldNilIff, trimNilIff]

end Text

namespace Closeness

theorem scoreForm {term term' text text' : Text} (terms : Text.fold (Text.trim term') = Text.fold (Text.trim term))
    (texts : Text.fold (Text.trim text') = Text.fold (Text.trim text)) : score term' text' = score term text := by
  have blanks : Text.isBlankOnly term' = Text.isBlankOnly term := by
    rw [Bool.eq_iff_iff, Text.blankForm, Text.blankForm, terms]
  cases blank : Text.isBlankOnly term with
  | true => rw [scoreBlank blank, scoreBlank (blanks.trans blank)]
  | false => rw [scoreFolded blank, scoreFolded (blanks.trans blank), terms, texts]

theorem scoreSelf {s : Text} (some : Text.isBlankOnly s = false) : score s s = 100 := by
  rw [scoreFolded some]
  exact if_pos rfl

theorem scoreVariants :
    (∀ term term' text text' : Text, term.Variant term' → text.Variant text' →
      score term' text' = score term text) ∧
    ∀ s t u : Text, Text.isBlankOnly s = false → s.Variant t → s.Variant u → score t u = 100 := by
  refine ⟨fun term term' text text' terms texts => ?_, fun s t u some first second => ?_⟩
  · exact scoreForm (Text.variantForm terms) (Text.variantForm texts)
  · rw [scoreForm (Text.variantForm first) (Text.variantForm second), scoreSelf some]

theorem scoreVariantsOfStreet :
    let street := "Straße ΟΔΟΣ".toText
    let lowered := "straße οδος".toText
    let folded := "\tstrasse οδοσ \n".toText
    street.Variant lowered ∧ street.Variant folded ∧ score folded lowered = 100 ∧
    Text.Variant " SSE".toText "sse".toText ∧ score "sse".toText folded = score " SSE".toText street := by
  intro street lowered folded
  have lower : street.Variant lowered := by
    have spelled : lowered = Text.lower street := by decide +kernel
    exact spelled ▸ .lowered .same
  have fold : street.Variant folded := by
    have spelled : folded = "\t".toText ++ Text.fold lowered ++ " \n".toText := by decide +kernel
    exact spelled ▸ .padded (by decide) (by decide) (.folded lower)
  have term : Text.Variant " SSE".toText "sse".toText := by
    have spelled : Text.fold " SSE".toText = " ".toText ++ "sse".toText ++ [] := by decide +kernel
    have padded : Text.Variant " SSE".toText (" ".toText ++ "sse".toText ++ []) := spelled ▸ .folded .same
    exact .stripped (by decide) (by decide) padded
  exact ⟨lower, fold, scoreVariants.2 street folded lowered (by decide) fold lower, term,
    scoreVariants.1 " SSE".toText "sse".toText street folded term fold⟩

end Closeness
end CollectionSearch
