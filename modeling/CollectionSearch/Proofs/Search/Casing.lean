import CollectionSearch.Proofs.Match.Ranking
import CollectionSearch.Proofs.Query.Case
import CollectionSearch.Service.Engine

/-! Lines typed in capitals. Matching folds both sides, so searches that agree once their genres are folded score
every item alike, and the lower case of a line has the results of the line. -/
namespace CollectionSearch
namespace Filter

theorem passesFolded {f g : Filter} (same : f.folded = g.folded) (item : Item) : f.passes item = g.passes item := by
  have field : f.field = g.field := by
    rw [← fieldFolded f, same, fieldFolded]
  by_cases genre : f.field = .genre
  · have folds : Text.fold f.value.display = Text.fold g.value.display := by
      rw [folded, if_pos genre, folded, if_pos (field ▸ genre)] at same
      exact FilterValue.text.inj (congrArg Filter.value same)
    simp only [passes, inScope, ← field, genre, hasGenre, folds]
  · rw [folded, if_neg genre, folded, if_neg (field ▸ genre)] at same
    rw [same]

theorem allPassFolded {filters others : List Filter} (same : filters.map folded = others.map folded) (item : Item) :
    allPass item filters = allPass item others := by
  induction filters generalizing others with
  | nil => rw [List.map_eq_nil_iff.mp same.symm]
  | cons f rest ih =>
    obtain ⟨g, behind, rfl, here, later⟩ := List.map_eq_cons_iff.mp same.symm
    rw [allPass, allPass, passesFolded here.symm, ih later.symm]

end Filter

theorem Parsed.criteriaFolded {a b : Parsed} (same : a.folded = b.folded) : a.hasCriteria = b.hasCriteria := by
  have unfolded (parsed : Parsed) : parsed.hasCriteria = parsed.folded.hasCriteria := by
    simp only [hasCriteria, folded, List.isEmpty_map]
  rw [unfolded, same, ← unfolded]

namespace Relevance

theorem scoreCase {a b : Parsed} (same : a.folded = b.folded) (item : Item) : score a item = score b item := by
  simp only [Parsed.folded, Parsed.mk.injEq, true_and] at same
  obtain ⟨kinds, filters, phrases, groups, excluded⟩ := same
  unfold score Parsed.admits Parsed.allowsKind
  rw [kinds, Filter.allPassFolded filters, phrases, groups, excluded]

end Relevance

namespace Engine

theorem searchLowered {line : Text} (free : ∀ word, .word word ∈ Piece.scan line → Token.CaseFree word)
    (snapshot : Snapshot) (cap : Option Int) :
    (⟨snapshot, cap⟩ : Engine).search (Text.lower line) = (⟨snapshot, cap⟩ : Engine).search line := by
  simp only [search, Ranking.ofLine]
  rcases Outcome.alikeCases (Parsed.parseCase free) with ⟨fault, first, second⟩ | ⟨a, b, first, second, same⟩
  · rw [first, second]
  · rw [first, second]
    exact Ranking.ofParsedScores (Parsed.criteriaFolded same) (Relevance.scoreCase same) cap snapshot

theorem searchLoweredOfSigma :
    let line := "\"ΟΔΟΣ\" ZETA -OLD Genre:Σ-FI @Film RATING>=1E0 \u212A:5".toText
    let lowered := "\"οδος\" zeta -old genre:ς-fi @film rating>=1e0 k:5".toText
    let parsed : Parsed := {
      raw := line, kinds := ["movie".toText]
      filters := [⟨.genre, .equal, .text "σ-fi".toText⟩, ⟨.rating, .atLeast, .number (.real (.ofDecimal false 1 0))⟩]
      phrases := ["οδος".toText], groups := [["zeta".toText], ["k:5".toText]], excluded := ["old".toText] }
    let film (genre : Text) : Entity := .media ⟨[], "movie".toText, "Zeta, η οδός K:5 ΟΔΟΣ".toText, none,
      Vocabulary.queued, some (.whole 7), none, [], [], none, [genre], none⟩
    let ranked : List Ranked := [⟨"movie".toText, film "Aς-Fi".toText, 85⟩]
    let snapshot : Snapshot := ⟨[film "Aς-Fi".toText, film "Sci-Fi".toText], [], []⟩
    Text.lower line = lowered ∧ Parsed.parse line = .ok parsed ∧
    (∀ word, .word word ∈ Piece.scan line → Token.CaseFree word) ∧
    (⟨snapshot, none⟩ : Engine).search line = .ok ranked ∧
    (⟨snapshot, none⟩ : Engine).search lowered = (⟨snapshot, none⟩ : Engine).search line := by
  intro line lowered parsed film ranked snapshot
  have small : Text.lower line = lowered := by decide +kernel
  have read : Parsed.parse line = .ok parsed := Outcome.okOfToOption (by decide +kernel)
  have pieces : ∀ piece ∈ Piece.scan line, piece ≠ .word Token.orWord ∧ piece ≠ .word Segment.notWord ∧
      ∀ found ∈ Token.assignment? piece.text,
        Text.lower found.1 ≠ "by".toText ∧ Text.lower found.1 ≠ "from".toText := by decide +kernel
  have free : ∀ word, .word word ∈ Piece.scan line → Token.CaseFree word := by
    intro word member
    obtain ⟨either, negates, named⟩ := pieces (.word word) member
    exact ⟨fun same => either (congrArg _ same), fun same => negates (congrArg _ same),
      fun key value shape => named (key, value) (Token.assignmentIff.mpr shape)⟩
  have kept : Ranking.ofEntity parsed (film "Aς-Fi".toText) = .ok ranked[0] :=
    (Ranking.ofEntityScored rfl).mpr ⟨rfl, rfl, Outcome.okOfToOption (by decide +kernel)⟩
  have out : Ranking.ofEntity parsed (film "Sci-Fi".toText) = .ok ⟨"movie".toText, film "Sci-Fi".toText, 0⟩ :=
    (Ranking.ofEntityScored rfl).mpr ⟨rfl, rfl, Outcome.okOfToOption (by decide +kernel)⟩
  have made : Ranking.full parsed snapshot.entities = .ok ranked :=
    Outcome.bindOk.mpr ⟨_, Outcome.eachOk.mpr (.cons kept (.cons out .nil)),
      congrArg Except.ok (List.mergeSort_singleton _)⟩
  have found : (⟨snapshot, none⟩ : Engine).search line = .ok ranked :=
    Ranking.ofLineCut read (by decide) snapshot made none
  exact ⟨small, read, free, found, small ▸ searchLowered free snapshot none⟩

end Engine
end CollectionSearch
