import CollectionSearch.Proofs.Match.Declared
import CollectionSearch.Proofs.Query.WellFormed
import CollectionSearch.Proofs.Text.Trimming

/-! A word as a term and as an exclusion. The closeness of a term is taken from trimmed fields and has many degrees, an
exclusion looks into the fields as they are and says yes or no; they agree on which items have the word in one piece. -/
namespace CollectionSearch

namespace Text

theorem blanklessTrimmed {word : Text} (full : word.Blankless) : Trimmed word where
  first c starts := full c (List.mem_of_head? starts)
  last c ends := full c (List.mem_of_getLast? ends)

end Text

namespace Closeness

theorem containsIff {term text : Text} (some : Text.isBlankOnly term = false) :
    85 ≤ score term text ↔ Contains term text := by
  refine ⟨fun high => ?_, containsScore some⟩
  obtain ⟨found, _, tiers⟩ := scoreReads some text
  rcases scoreInTiers term text with zero | low | middle | part | start | equal
  · omega
  · omega
  · omega
  · exact (tiers.part.mp part).1
  · exact (tiers.start.mp start).1.isInfix
  · unfold Contains
    exact tiers.equal.mp equal ▸ List.infix_refl _

theorem containsWord {word text : Text} (some : word ≠ []) (full : word.Blankless) :
    Contains word text ↔ Text.fold word <:+: Text.fold text := by
  unfold Contains
  rw [Text.trimmedTrim (Text.blanklessTrimmed full)]
  exact ⟨fun inside => inside.trans (Text.foldInfix (Text.trimInfix text)), Text.foldInfixTrim some full⟩

end Closeness

namespace Parsed

def wanting (raw word : Text) : Parsed where
  raw := raw
  kinds := []
  filters := []
  phrases := []
  groups := [[word]]
  excluded := []

def excluding (raw word : Text) : Parsed where
  raw := raw
  kinds := []
  filters := []
  phrases := []
  groups := []
  excluded := [word]

end Parsed

namespace Relevance

theorem scoreWanting (raw word : Text) (item : Item) :
    ∃ value, score (.wanting raw word) item = .ok value ∧ IsBest item [word] value := by
  have evaluable : (Parsed.wanting raw word).Evaluable := ⟨by simp [Parsed.wanting], by simp [Parsed.wanting]⟩
  obtain ⟨value, settled, _, declared⟩ := scoreDecided evaluable item
  refine ⟨value, settled, ?_⟩
  cases declared with
  | blocked blocked =>
    cases blocked with
    | kind some => exact absurd rfl some
    | filter f member | excluded f member | phrase f member => cases member
  | free _ none => cases none
  | weakest _ _ _ least =>
    obtain ⟨group, member, best⟩ := least.1
    exact List.mem_singleton.mp member ▸ best

theorem scoreExcluding (raw word : Text) (item : Item) :
    score (.excluding raw word) item = .ok (if item.mentions word then 0 else 100) := by
  have evaluable : (Parsed.excluding raw word).Evaluable := ⟨by simp [Parsed.excluding], by simp [Parsed.excluding]⟩
  split
  · rename_i mentions
    obtain ⟨text, field, inside⟩ := (item.mentionsIff word).mp mentions
    exact scoreBlocked evaluable (.excluded word List.mem_cons_self text field inside)
  · rename_i silent
    have admitted : ¬ Blocked (.excluding raw word) item := by
      rintro (⟨some⟩ | ⟨f, member⟩ | ⟨term, member, text, field, inside⟩ | ⟨phrase, member⟩)
      · exact some rfl
      · cases member
      · obtain rfl := List.mem_singleton.mp member
        exact silent ((item.mentionsIff term).mpr ⟨text, field, inside⟩)
      · cases member
    exact scoreAdmitted evaluable admitted

theorem bestContains {item : Item} {word : Text} {value : Nat} (some : word ≠ []) (full : word.Blankless)
    (best : IsBest item [word] value) :
    85 ≤ value ↔ ∃ text, item.IsField text ∧ Closeness.Contains word text := by
  have filled := Text.filledSays ⟨some, Text.blanklessTrimmed full⟩
  cases best with
  | bare none => exact iff_of_false (by decide) (fun ⟨text, field, _⟩ => none text field)
  | greatest value _ most =>
    constructor
    · intro high
      obtain ⟨term, member, text, field, rfl⟩ := most.1
      obtain rfl := List.mem_singleton.mp member
      exact ⟨text, field, (Closeness.containsIff filled).mp high⟩
    · rintro ⟨text, field, contains⟩
      have close := (Closeness.containsIff filled).mpr contains
      exact close.trans (most.2 ⟨word, List.mem_cons_self, text, field, rfl⟩)

theorem bestInTiers {item : Item} {alternatives : List Text} {value : Nat} (best : IsBest item alternatives value) :
    Closeness.InTiers value := by
  cases best with
  | bare => exact .inl rfl
  | greatest value _ most =>
    obtain ⟨term, _, text, _, rfl⟩ := most.1
    exact Closeness.scoreInTiers term text

theorem excludingWanting {word : Text} (some : word ≠ []) (full : ∀ c ∈ word, Text.isBlank c = false) (item : Item)
    (raw other : Text) :
    ∃ found kept, score (.wanting raw word) item = .ok found ∧ score (.excluding other word) item = .ok kept ∧
      (85 ≤ found ↔ kept = 0) ∧ (found ≤ 80 ↔ kept = 100) ∧
      (kept = 0 ↔ ∃ text, item.IsField text ∧ Closeness.Contains word text) := by
  obtain ⟨found, settled, best⟩ := scoreWanting raw word item
  have mentions : item.mentions word = true ↔ 85 ≤ found := by
    simp only [item.mentionsIff word, bestContains some full best, Closeness.containsWord some full]
  have tiers := bestInTiers best
  unfold Closeness.InTiers at tiers
  refine ⟨found, _, settled, scoreExcluding other word item, ?_⟩
  rw [← bestContains some full best]
  by_cases high : 85 ≤ found
  · rw [if_pos (mentions.mpr high)]
    omega
  · rw [if_neg (mt mentions.mp high)]
    omega

theorem excludingWantingOfCat :
    let item (content : Text) : Item := {
      id := [], kind := "note".toText, title := "C xaxxat".toText, content := content, status := none, rating := none
      year := none, creator := none, genres := [], tags := ["c-a-t".toText], archived := none, read := none
      visited := none }
    (score (.wanting [] "cat".toText) (item " CATS".toText) = .ok 95 ∧
      score (.excluding [] "cat".toText) (item " CATS".toText) = .ok 0) ∧
    score (.wanting [] "cat".toText) (item "dogs".toText) = .ok 80 ∧
    score (.excluding [] "cat".toText) (item "dogs".toText) = .ok 100 := by
  intro item
  have whole : score (.wanting [] "cat".toText) (item " CATS".toText) = .ok 95 :=
    Outcome.okOfToOption (by decide +kernel)
  have gaps : score (.wanting [] "cat".toText) (item "dogs".toText) = .ok 80 :=
    Outcome.okOfToOption (by decide +kernel)
  have agrees (content : Text) := excludingWanting (by decide : "cat".toText ≠ []) (by decide) (item content) [] []
  obtain ⟨found, kept, settled, excluded, high, _⟩ := agrees " CATS".toText
  obtain ⟨foundToo, keptToo, settledToo, excludedToo, _, low, _⟩ := agrees "dogs".toText
  cases whole.symm.trans settled
  cases gaps.symm.trans settledToo
  rw [high.mp (by decide)] at excluded
  rw [low.mp (by decide)] at excludedToo
  exact ⟨⟨whole, excluded⟩, gaps, excludedToo⟩

end Relevance
end CollectionSearch
