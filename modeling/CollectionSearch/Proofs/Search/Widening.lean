import CollectionSearch.Proofs.Match.Declared
import CollectionSearch.Proofs.Query.Plain

/-! A term put behind a line that ends with one. As a word of its own it is one more group to meet, and behind an
`OR` it is one more alternative of the last group, so that no item scores higher by the first and none lower by the
second. -/
namespace CollectionSearch
namespace Clause

theorem chainsWider (front : List Clause) (text : Text) :
    (chains front).1 ⊆ (chains (front ++ [.alternative text])).1 ∧
    ∀ wide ∈ (chains (front ++ [.alternative text])).2, ∃ narrow ∈ (chains front).2, narrow ⊆ wide := by
  induction front with
  | nil => exact ⟨List.nil_subset _, by simp [chains]⟩
  | cons clause front ih =>
    obtain ⟨leading, later⟩ := ih
    cases clause with
    | term first =>
      refine ⟨List.nil_subset _, fun wide member => ?_⟩
      rcases List.mem_cons.mp member with rfl | behind
      · refine ⟨_, List.mem_cons_self, fun other inside => ?_⟩
        exact Text.memDistinct.mpr (List.cons_subset_cons first leading (Text.memDistinct.mp inside))
      · obtain ⟨narrow, present, within⟩ := later wide behind
        exact ⟨narrow, List.mem_cons_of_mem _ present, within⟩
    | alternative first => exact ⟨List.cons_subset_cons first leading, later⟩
    | phrase first | kinds names | filter f | excluded first => exact ⟨List.nil_subset _, later⟩

theorem ofTokensEither {front : List Token} {last : Text} (ends : front.getLast? = some (.term last)) (text : Text) :
    ofTokens false (front ++ [.either, .term text]) = ofTokens false front ++ [.alternative text] := by
  rw [ofTokensBehind (by simp [ends]), afterTokens, ends]
  rfl

theorem ofTokensTerm {front : List Token} {last : Text} (ends : front.getLast? = some (.term last)) (text : Text) :
    ofTokens false (front ++ [.term text]) = ofTokens false front ++ [.term text] :=
  ofTokensBehind (by simp [ends]) false [.term text]

end Clause

namespace Token

theorem scanSpaced {left right : Text} {front rest : List Token} (unquoted : Piece.quote ∉ right)
    (free : (Piece.scan left).getLast? ≠ some (.word Segment.notWord)) (first : scan left = .ok front)
    (second : scan right = .ok rest) : scan (left ++ " ".toText ++ right) = .ok (front ++ rest) :=
  scanJoined (.inr unquoted) (by decide) (by decide) free first second

theorem scanJoinedEither {left right : Text} {front rest : List Token} (unquoted : Piece.quote ∉ right)
    (free : (Piece.scan left).getLast? ≠ some (.word Segment.notWord)) (first : scan left = .ok front)
    (second : scan right = .ok rest) : scan (left ++ " OR ".toText ++ right) = .ok (front ++ .either :: rest) := by
  have either : scan orWord = .ok [.either] := scanWord (by decide) (by decide) rfl
  have behind : scan (orWord ++ " ".toText ++ right) = .ok (.either :: rest) :=
    scanSpaced unquoted (by decide +kernel) either second
  have joins : left ++ " OR ".toText ++ right = left ++ " ".toText ++ (orWord ++ " ".toText ++ right) := by
    simp [orWord, String.toText]
  rw [joins]
  exact scanSpaced (by simp [unquoted]; decide) free first behind

end Token

namespace Parsed

structure Looser (strict loose : Parsed) : Prop where
  blocked : ∀ item, Relevance.Blocked loose item → Relevance.Blocked strict item
  groups : ∀ wide ∈ loose.groups, ∃ narrow ∈ strict.groups, narrow ⊆ wide

end Parsed

namespace Relevance

theorem isBestWider {item : Item} {narrow wide : List Text} (within : narrow ⊆ wide) {a b : Nat}
    (first : IsBest item narrow a) (second : IsBest item wide b) : a ≤ b := by
  cases first with
  | bare none => exact Nat.zero_le b
  | greatest _ some most =>
    cases second with
    | bare none => exact absurd some (not_exists.mpr none)
    | greatest _ _ other =>
      obtain ⟨term, present, text, field, value⟩ := most.1
      exact other.2 ⟨term, within present, text, field, value⟩

theorem scoreLooser {strict loose : Parsed} (strictTried : strict.Evaluable) (looseTried : loose.Evaluable)
    (looser : Parsed.Looser strict loose) (item : Item) :
    ∃ low high, score strict item = .ok low ∧ score loose item = .ok high ∧ low ≤ high := by
  obtain ⟨low, first, bound, least⟩ := scoreDecided strictTried item
  obtain ⟨high, second, _, most⟩ := scoreDecided looseTried item
  refine ⟨low, high, first, second, ?_⟩
  cases least with
  | blocked out => exact Nat.zero_le high
  | free admitted none =>
    cases most with
    | blocked out => exact absurd (looser.blocked item out) admitted
    | free => exact Nat.le_refl 100
    | weakest _ _ _ chosen =>
      obtain ⟨wide, member, _⟩ := chosen.1
      obtain ⟨narrow, present, _⟩ := looser.groups wide member
      exact absurd (none ▸ present) List.not_mem_nil
  | weakest _ admitted some chosen =>
    cases most with
    | blocked out => exact absurd (looser.blocked item out) admitted
    | free => exact bound
    | weakest _ _ _ other =>
      obtain ⟨wide, member, bestWide⟩ := other.1
      obtain ⟨narrow, present, within⟩ := looser.groups wide member
      obtain ⟨best, _, bestNarrow, _⟩ := groupBest item (strictTried.groups narrow present)
      calc low ≤ best := chosen.2 ⟨narrow, present, bestNarrow⟩
        _ ≤ high := isBestWider within bestNarrow bestWide

theorem blockedOfDemands {a b : Parsed} (kinds : a.kinds = b.kinds) (filters : a.filters = b.filters)
    (phrases : a.phrases = b.phrases) (excluded : a.excluded = b.excluded) {item : Item} (blocked : Blocked a item) :
    Blocked b item := by
  cases blocked with
  | kind some other => exact .kind (kinds ▸ some) (kinds ▸ other)
  | filter f member fails => exact .filter f (filters ▸ member) fails
  | excluded word member field isField inside => exact .excluded word (excluded ▸ member) field isField inside
  | phrase text member title content => exact .phrase text (phrases ▸ member) title content

theorem blockedTerm {clause : Clause} {text : Text} (term : clause.token = .term text) (line other : Text)
    (front : List Clause) (item : Item) :
    Blocked (Parsed.ofClauses line (front ++ [clause])) item ↔ Blocked (Parsed.ofClauses other front) item := by
  obtain ⟨kinds, filters, phrases, excluded⟩ :
      (Parsed.ofClauses line (front ++ [clause])).kinds = (Parsed.ofClauses other front).kinds ∧
      (Parsed.ofClauses line (front ++ [clause])).filters = (Parsed.ofClauses other front).filters ∧
      (Parsed.ofClauses line (front ++ [clause])).phrases = (Parsed.ofClauses other front).phrases ∧
      (Parsed.ofClauses line (front ++ [clause])).excluded = (Parsed.ofClauses other front).excluded := by
    cases clause with
    | term | alternative =>
      simp [Parsed.ofClauses, List.filterMap_cons, Clause.filter?, Clause.phrase?, Clause.excluded?, Clause.names]
    | phrase | kinds | filter | excluded => cases term
  exact ⟨blockedOfDemands kinds filters phrases excluded,
    blockedOfDemands kinds.symm filters.symm phrases.symm excluded.symm⟩

end Relevance

namespace Parsed

theorem looserTerm {tokens : List Token} {last : Text} (ends : tokens.getLast? = some (.term last))
    (line other text : Text) : Looser (ofTokens line (tokens ++ [.term text])) (ofTokens other tokens) := by
  unfold ofTokens
  rw [Clause.ofTokensTerm ends]
  refine ⟨fun item => (Relevance.blockedTerm rfl line other _ item).mpr, fun wide member => ?_⟩
  have alone : (Clause.chains [.term text]).1 = [] := rfl
  refine ⟨wide, ?_, List.Subset.refl wide⟩
  simp only [ofClauses, Clause.groups, Clause.chainsAppend (Clause.ofTokens false tokens) alone]
  exact List.mem_append_left _ member

theorem looserEither {tokens : List Token} {last : Text} (ends : tokens.getLast? = some (.term last))
    (line other text : Text) :
    Looser (ofTokens line tokens) (ofTokens other (tokens ++ [.either, .term text])) := by
  unfold ofTokens
  rw [Clause.ofTokensEither ends]
  exact ⟨fun item => (Relevance.blockedTerm rfl other line _ item).mp, (Clause.chainsWider _ text).2⟩

end Parsed

namespace Relevance

/- A `NOT` at the end of the line would take the word behind it, and an `OR` there would join it. -/
theorem appendedTerm {line word : Text} {tokens : List Token} {last term : Text}
    (scanned : Token.scan line = .ok tokens) (ends : tokens.getLast? = some (.term last))
    (free : (Piece.scan line).getLast? ≠ some (.word Segment.notWord)) (filled : word ≠ [])
    (full : ∀ c ∈ word, Text.isBlank c = false) (unquoted : Piece.quote ∉ word)
    (read : Token.ofWord word = .ok (.term term)) :
    ∃ narrowed parsed widened, Parsed.parse (line ++ " ".toText ++ word) = .ok narrowed ∧
      Parsed.parse line = .ok parsed ∧ Parsed.parse (line ++ " OR ".toText ++ word) = .ok widened ∧
      ∀ item, ∃ low middle high, score narrowed item = .ok low ∧ score parsed item = .ok middle ∧
        score widened item = .ok high ∧ low ≤ middle ∧ middle ≤ high ∧ (0 < low → 0 < middle) ∧
        (0 < middle → 0 < high) := by
  have single : Token.scan word = .ok [.term term] := by
    obtain ⟨c, rest, rfl⟩ := List.exists_cons_of_ne_nil filled
    exact Token.scanWord (fun same => unquoted (same ▸ List.mem_cons_self)) full read
  have narrowed : Parsed.parse (line ++ " ".toText ++ word) = .ok _ :=
    Parsed.parseOk.mpr ⟨_, Token.scanSpaced unquoted free scanned single, rfl⟩
  have parsed : Parsed.parse line = .ok _ := Parsed.parseOk.mpr ⟨tokens, scanned, rfl⟩
  have widened : Parsed.parse (line ++ " OR ".toText ++ word) = .ok _ :=
    Parsed.parseOk.mpr ⟨_, Token.scanJoinedEither unquoted free scanned single, rfl⟩
  refine ⟨_, _, _, narrowed, parsed, widened, fun item => ?_⟩
  have middleTried := Parsed.parseEvaluable parsed
  obtain ⟨low, middle, first, second, below⟩ :=
    scoreLooser (Parsed.parseEvaluable narrowed) middleTried (Parsed.looserTerm ends _ line term) item
  obtain ⟨same, high, again, third, above⟩ :=
    scoreLooser middleTried (Parsed.parseEvaluable widened) (Parsed.looserEither ends line _ term) item
  cases second.symm.trans again
  exact ⟨low, middle, high, first, second, third, below, above, fun some => Nat.lt_of_lt_of_le some below,
    fun some => Nat.lt_of_lt_of_le some above⟩

theorem appendedTermOfChain :
    let line := "\"the end\" OR NOT old Alpha OR zeta".toText
    let word := "Beta:x".toText
    let tokens : List Token := [.phrase "the end".toText, .either, .excluded "old".toText, .term "alpha".toText,
      .either, .term "zeta".toText]
    Token.scan line = .ok tokens ∧ tokens.getLast? = some (.term "zeta".toText) ∧
    (Piece.scan line).getLast? ≠ some (.word Segment.notWord) ∧ word ≠ [] ∧ (∀ c ∈ word, Text.isBlank c = false) ∧
    Piece.quote ∉ word ∧ Token.ofWord word = .ok (.term "beta:x".toText) ∧
    ∃ narrowed parsed widened, Parsed.parse (line ++ " ".toText ++ word) = .ok narrowed ∧
      Parsed.parse line = .ok parsed ∧ Parsed.parse (line ++ " OR ".toText ++ word) = .ok widened ∧
      ∀ item, ∃ low middle high, score narrowed item = .ok low ∧ score parsed item = .ok middle ∧
        score widened item = .ok high ∧ low ≤ middle ∧ middle ≤ high ∧ (0 < low → 0 < middle) ∧
        (0 < middle → 0 < high) := by
  intro line word tokens
  have scanned : Token.scan line = .ok tokens := Outcome.okOfToOption (by decide +kernel)
  have free : (Piece.scan line).getLast? ≠ some (.word Segment.notWord) := by decide +kernel
  have full : ∀ c ∈ word, Text.isBlank c = false := by decide
  have read : Token.ofWord word = .ok (.term "beta:x".toText) := Outcome.okOfToOption (by decide +kernel)
  exact ⟨scanned, rfl, free, by decide, full, by decide, read,
    appendedTerm scanned rfl free (by decide) full (by decide) read⟩

end Relevance
end CollectionSearch
