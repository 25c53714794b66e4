import CollectionSearch.Proofs.Query.Chains
import CollectionSearch.Proofs.Query.Composition

/-! What a list of tokens comes to, read off the tokens by position: the groups are the longest chains of terms that an
`OR` links, and everything else says again what a token says. -/
namespace CollectionSearch

open Sequence (Listed)

namespace Clause
open Token

structure Settles (tokens : List Token) (n : Nat) (clauses : List Clause) : Prop where
  front : Links tokens n (chains clauses).1
  groups : Listed (Group tokens) n (chains clauses).2

section
variable {tokens : List Token} {n : Nat} {clauses : List Clause}

theorem settlesEnd (ended : tokens.length ≤ n) : Settles tokens n [] := by
  have empty : ∀ i, n ≤ i → tokens[i]? = none := fun i past => List.getElem?_eq_none (by omega)
  refine ⟨.done (fun joins => ?_), .done (fun i group past => groupNone (fun text literal => ?_))⟩
  · cases joins.here.symm.trans (empty n le_rfl)
  · cases literal with
    | term here | either here => cases here.symm.trans (empty i past)

theorem settlesTerm {text : Text} (literal : Literal tokens n text) (opens : Opens tokens n)
    (behind : Settles tokens (n + 1) clauses) :
    Settles tokens n (.term text :: clauses) where
  front := .done (literalApart literal)
  groups := by
    have chain : Chain tokens n (text :: (chains clauses).1) := .of opens literal behind.front
    exact .next le_rfl (fun j y atLeast before => absurd before (by omega)) (fun group => groupIff chain) behind.groups

theorem settlesAlternative {text : Text} (joins : Joins tokens n) (next : tokens[n + 1]? = some (.term text))
    (behind : Settles tokens (n + 2) clauses) : Settles tokens n (.alternative text :: clauses) where
  front := .next joins next behind.front
  groups := by
    refine Sequence.listedFrom (by omega) (fun i group past before found => ?_) behind.groups
    -- the `OR` is no literal, and the term behind it opens no chain
    obtain ⟨_, ⟨opens, literal, _⟩, _⟩ := found
    rcases Nat.lt_succ_iff_lt_or_eq.mp before with front | rfl
    · obtain rfl : i = n := by omega
      cases literal with
      | term here => cases here.symm.trans joins.here
      | either _ alone => exact alone joins
    · exact opens n rfl joins

theorem settlesOther {token : Token} {clause : Clause} (here : tokens[n]? = some token) (plain : token ≠ .either)
    (wordless : ∀ text, token ≠ .term text) (single : chains (clause :: clauses) = ([], (chains clauses).2))
    (behind : Settles tokens (n + 1) clauses) : Settles tokens n (clause :: clauses) where
  front := by
    rw [single]
    exact .done (apartOf here plain)
  groups := by
    rw [single]
    refine Sequence.listedFrom (by omega) (fun i group past before found => ?_) behind.groups
    obtain rfl : i = n := by omega
    refine groupNone (fun text literal => ?_) found
    cases literal with
    | term same => exact wordless text (Option.some.inj (here.symm.trans same))
    | either same => exact plain (Option.some.inj (here.symm.trans same))

/- The induction is on the settling. What it carries over is whether a term may be joined to, which the token in front
tells, and that no `OR` in front takes up the first token. -/
theorem ofTokensSettles {afterTerm : Bool} {rest : List Token} (suffix : tokens.drop n = rest) (opens : Opens tokens n)
    (state : afterTerm = true ↔ Follows tokens n) : Settles tokens n (ofTokens afterTerm rest) := by
  fun_induction ofTokens afterTerm rest generalizing n with
  | case1 => exact settlesEnd (List.drop_eq_nil_iff.mp suffix)
  | case2 text rest ih =>
    obtain ⟨here, suffix⟩ := Sequence.suffixHead suffix
    obtain ⟨next, suffix⟩ := Sequence.suffixHead suffix
    have joins : Joins tokens n := ⟨here, ⟨text, next⟩, state.mp rfl⟩
    have apart := literalApart (.term next)
    exact settlesAlternative joins next (ih suffix (opensBehind apart) (by simp [followsIff next]))
  | case3 afterTerm text rest fresh ih =>
    obtain ⟨here, suffix⟩ := Sequence.suffixHead suffix
    obtain ⟨next, suffix⟩ := Sequence.suffixHead suffix
    have alone : ¬ Joins tokens n := fun joins => fresh (state.mpr joins.follows)
    have apart := literalApart (.term next)
    have behind := ih suffix (opensBehind apart) (by simp [followsIff next])
    exact settlesTerm (.either here alone) opens (settlesTerm (.term next) (opensBehind alone) behind)
  | case4 afterTerm rest other ih =>
    obtain ⟨here, suffix⟩ := Sequence.suffixHead suffix
    have alone : ¬ Joins tokens n := by
      intro joins
      obtain ⟨text, next⟩ := joins.next
      rw [← List.head?_drop, suffix] at next
      obtain ⟨more, same⟩ := List.head?_eq_some_iff.mp next
      exact other text more same
    exact settlesTerm (.either here alone) opens (ih suffix (opensBehind alone) (by simp [followsIff here]))
  | case5 afterTerm text rest ih =>
    obtain ⟨here, suffix⟩ := Sequence.suffixHead suffix
    have apart := literalApart (.term here)
    exact settlesTerm (.term here) opens (ih suffix (opensBehind apart) (by simp [followsIff here]))
  | case6 afterTerm text rest ih | case7 afterTerm names rest ih | case8 afterTerm f rest ih
  | case9 afterTerm text rest ih =>
    obtain ⟨here, suffix⟩ := Sequence.suffixHead suffix
    have apart := apartOf here Token.noConfusion
    have behind := ih suffix (opensBehind apart) (by simp [followsIff here])
    exact settlesOther here Token.noConfusion (fun _ => Token.noConfusion) rfl behind

end

theorem ofTokensSelect {α : Type} {select : Clause → List α} {said : Token → List α}
    (same : ∀ clause, select clause = said clause.token) (either : said .either = [])
    (term : ∀ text, said (.term text) = []) (afterTerm : Bool) (tokens : List Token) :
    (ofTokens afterTerm tokens).flatMap select = tokens.flatMap said := by
  fun_induction ofTokens afterTerm tokens with
  | case1 => rfl
  | case2 | case3 | case4 | case5 | case6 | case7 | case8 | case9 => simp_all [token]

theorem ofTokensChoose {α : Type} {select : Clause → Option α} {said : Token → Option α}
    (same : ∀ clause, select clause = said clause.token) (either : said .either = none)
    (term : ∀ text, said (.term text) = none) (afterTerm : Bool) (tokens : List Token) :
    (ofTokens afterTerm tokens).filterMap select = tokens.filterMap said := by
  rw [List.filterMap_eq_flatMap_toList, List.filterMap_eq_flatMap_toList]
  exact ofTokensSelect (fun clause => by rw [same]) (by rw [either]; rfl) (fun text => by rw [term]; rfl) afterTerm tokens

end Clause

namespace Parsed
open Token

inductive Kept (tokens : List Token) (parsed : Parsed) (i : Nat) : Prop where
  | joins (joins : Joins tokens i) : Kept tokens parsed i
  | literal {text : Text} (literal : Literal tokens i text) {start k : Nat} {texts group : List Text}
    (chain : Chain tokens start texts) (place : start + 2 * k = i) (said : texts[k]? = some text)
    (ofChain : Group tokens start group) (listed : group ∈ parsed.groups) (member : text ∈ group) :
    Kept tokens parsed i
  | phrase {text : Text} (here : tokens[i]? = some (.phrase text)) (listed : text ∈ parsed.phrases) :
    Kept tokens parsed i
  | kinds {names : List Text} (here : tokens[i]? = some (.kinds names)) (listed : ∀ name ∈ names, name ∈ parsed.kinds) :
    Kept tokens parsed i
  | filter {f last : Filter} (here : tokens[i]? = some (.filter f)) (listed : last ∈ parsed.filters)
    (field : f.field = last.field) (comparator : f.comparator = last.comparator) : Kept tokens parsed i
  | excluded {text : Text} (here : tokens[i]? = some (.excluded text)) (listed : text ∈ parsed.excluded) :
    Kept tokens parsed i

structure Settles (tokens : List Token) (parsed : Parsed) : Prop where
  groups : Listed (Group tokens) 0 parsed.groups
  kinds : ∀ name, name ∈ parsed.kinds ↔ ∃ names, .kinds names ∈ tokens ∧ name ∈ names
  excluded : ∀ text, text ∈ parsed.excluded ↔ .excluded text ∈ tokens
  phrases : Listed (fun i text => tokens[i]? = some (.phrase text) ∧ ∀ j < i, tokens[j]? ≠ some (.phrase text)) 0
    parsed.phrases
  filters : Listed (fun i f => tokens[i]? = some (.filter f) ∧ ∀ j g, i < j → tokens[j]? = some (.filter g) →
    ¬(f.field = g.field ∧ f.comparator = g.comparator)) 0 parsed.filters
  kept : ∀ i < tokens.length, Kept tokens parsed i

def phraseOf : Token → Option Text
  | .phrase text => some text
  | _ => none

def filterOf : Token → Option Filter
  | .filter f => some f
  | _ => none

def excludedOf : Token → Option Text
  | .excluded text => some text
  | _ => none

def namesOf : Token → List Text
  | .kinds names => names
  | _ => []

theorem phraseOfIff {token : Token} {text : Text} : phraseOf token = some text ↔ token = .phrase text := by
  cases token <;> simp [phraseOf]

theorem filterOfIff {token : Token} {f : Filter} : filterOf token = some f ↔ token = .filter f := by
  cases token <;> simp [filterOf]

theorem excludedOfIff {token : Token} {text : Text} : excludedOf token = some text ↔ token = .excluded text := by
  cases token <;> simp [excludedOf]

theorem namesOfIff {token : Token} {name : Text} :
    name ∈ namesOf token ↔ ∃ names, token = .kinds names ∧ name ∈ names := by
  cases token <;> simp [namesOf]

theorem phrasesOf (raw : Text) (tokens : List Token) :
    (ofTokens raw tokens).phrases = Text.distinct (tokens.filterMap phraseOf) := by
  have same (clause : Clause) : clause.phrase? = phraseOf clause.token := by cases clause <;> rfl
  exact congrArg Text.distinct (Clause.ofTokensChoose same rfl (fun _ => rfl) false tokens)

theorem filtersOf (raw : Text) (tokens : List Token) :
    (ofTokens raw tokens).filters = Filter.latest (tokens.filterMap filterOf) := by
  have same (clause : Clause) : clause.filter? = filterOf clause.token := by cases clause <;> rfl
  exact congrArg Filter.latest (Clause.ofTokensChoose same rfl (fun _ => rfl) false tokens)

theorem excludedIff (raw : Text) (tokens : List Token) (text : Text) :
    text ∈ (ofTokens raw tokens).excluded ↔ .excluded text ∈ tokens := by
  have same (clause : Clause) : clause.excluded? = excludedOf clause.token := by cases clause <;> rfl
  have chosen := Clause.ofTokensChoose same rfl (fun _ => rfl) false tokens
  simp only [ofTokens, ofClauses, chosen, Text.memDistinct, List.mem_filterMap, excludedOfIff, exists_eq_right]

theorem kindsIff (raw : Text) (tokens : List Token) (name : Text) :
    name ∈ (ofTokens raw tokens).kinds ↔ ∃ names, .kinds names ∈ tokens ∧ name ∈ names := by
  have same (clause : Clause) : clause.names = namesOf clause.token := by cases clause <;> rfl
  have selected := Clause.ofTokensSelect same rfl (fun _ => rfl) false tokens
  simp only [ofTokens, ofClauses, selected, Text.memDistinct, List.mem_flatMap, namesOfIff]
  constructor
  · rintro ⟨token, member, names, rfl, named⟩
    exact ⟨names, member, named⟩
  · rintro ⟨names, member, named⟩
    exact ⟨.kinds names, member, names, rfl, named⟩

theorem groupsListed (raw : Text) (tokens : List Token) : Listed (Group tokens) 0 (ofTokens raw tokens).groups := by
  have opens : Opens tokens 0 := fun j next => absurd next (Nat.succ_ne_zero j)
  have first : ¬ Follows tokens 0 := fun ⟨j, next, _⟩ => Nat.succ_ne_zero j next
  exact (Clause.ofTokensSettles rfl opens (by simp [first])).groups

theorem phrasesListed (raw : Text) (tokens : List Token) :
    Listed (fun i text => tokens[i]? = some (.phrase text) ∧ ∀ j < i, tokens[j]? ≠ some (.phrase text)) 0
      (ofTokens raw tokens).phrases := by
  have listed := Text.distinctListed (Sequence.listedFilterMap (f := phraseOf) (Sequence.listedMembers tokens))
  simpa [phrasesOf, phraseOfIff] using listed

theorem filtersListed (raw : Text) (tokens : List Token) :
    Listed (fun i f => tokens[i]? = some (.filter f) ∧ ∀ j g, i < j → tokens[j]? = some (.filter g) →
      ¬(f.field = g.field ∧ f.comparator = g.comparator)) 0 (ofTokens raw tokens).filters := by
  have listed := Filter.latestListed (Sequence.listedFilterMap (f := filterOf) (Sequence.listedMembers tokens))
  simpa [filtersOf, filterOfIff, Filter.sameSlot] using listed

theorem literalKept (raw : Text) {tokens : List Token} {i : Nat} {text : Text} (literal : Literal tokens i text) :
    Kept tokens (ofTokens raw tokens) i := by
  obtain ⟨start, texts, k, chain, place, said⟩ := literalChained literal
  have ofChain := (groupIff chain).mpr rfl
  have listed := (Sequence.listedMem (groupsListed raw tokens) _).mpr ⟨start, Nat.zero_le start, ofChain⟩
  exact .literal literal chain place said ofChain listed (Text.memDistinct.mpr (List.mem_of_getElem? said))

theorem ofTokensKept (raw : Text) {tokens : List Token} {i : Nat} {token : Token} (here : tokens[i]? = some token) :
    Kept tokens (ofTokens raw tokens) i := by
  have member := List.mem_of_getElem? here
  cases token with
  | either =>
    by_cases joins : Joins tokens i
    · exact .joins joins
    · exact literalKept raw (.either here joins)
  | term text => exact literalKept raw (.term here)
  | phrase text =>
    have listed : text ∈ (ofTokens raw tokens).phrases := by
      rw [phrasesOf, Text.memDistinct, List.mem_filterMap]
      exact ⟨_, member, rfl⟩
    exact .phrase here listed
  | kinds names => exact .kinds here (fun name named => (kindsIff raw tokens name).mpr ⟨names, member, named⟩)
  | filter f =>
    have slot : (ofTokens raw tokens).filters.any (Filter.sameSlot f) = true := by
      rw [filtersOf, Filter.latestSlots]
      exact List.any_eq_true.mpr ⟨f, List.mem_filterMap.mpr ⟨_, member, rfl⟩, by simp [Filter.sameSlot]⟩
    obtain ⟨last, listed, same⟩ := List.any_eq_true.mp slot
    simp only [Filter.sameSlot, Bool.and_eq_true, decide_eq_true_eq] at same
    exact .filter here listed same.1 same.2
  | excluded text => exact .excluded here ((excludedIff raw tokens text).mpr member)

theorem parseSettled {line : Text} {tokens : List Token} (scanned : Token.scan line = .ok tokens) :
    ∃ parsed, parse line = .ok parsed ∧ parsed.Settles tokens := by
  refine ⟨ofTokens line tokens, parseOk.mpr ⟨tokens, scanned, rfl⟩, ?_⟩
  exact {
    groups := groupsListed line tokens
    kinds := kindsIff line tokens
    excluded := excludedIff line tokens
    phrases := phrasesListed line tokens
    filters := filtersListed line tokens
    kept := fun i within => ofTokensKept line (List.getElem?_eq_getElem within) }

theorem parseSettledOfRuns :
    let line := "OR a OR OR b OR b year:2000 OR x \"a b\" year:2001 \"a b\" -c OR".toText
    ∃ tokens parsed, Token.scan line = .ok tokens ∧ parse line = .ok parsed ∧ parsed.Settles tokens ∧
      parsed.groups = [["or".toText], ["a".toText], ["or".toText, "b".toText], ["or".toText], ["x".toText],
        ["or".toText]] ∧
      parsed.phrases = ["a b".toText] ∧ parsed.filters = [⟨.year, .equal, .number (.whole 2001)⟩] := by
  intro line
  have shown : (parse line).toOption.map (fun parsed => (parsed.groups, parsed.phrases, parsed.filters)) =
      some ([["or".toText], ["a".toText], ["or".toText, "b".toText], ["or".toText], ["x".toText], ["or".toText]],
        ["a b".toText], [⟨.year, .equal, .number (.whole 2001)⟩]) := by decide +kernel
  obtain ⟨parsed, parsedOk, same⟩ := Outcome.okOfShown shown
  obtain ⟨tokens, scanned, _⟩ := parseOk.mp parsedOk
  obtain ⟨other, otherOk, settles⟩ := parseSettled scanned
  obtain rfl : parsed = other := Except.ok.inj (parsedOk.symm.trans otherOk)
  obtain ⟨groups, phrases, filters⟩ := Prod.mk.inj same |>.imp id Prod.mk.inj
  exact ⟨tokens, parsed, scanned, parsedOk, settles, groups, phrases, filters⟩

end Parsed
end CollectionSearch
