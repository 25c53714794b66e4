import CollectionSearch.Proofs.Occurrence
import CollectionSearch.Query.Parsed

/-! How an `OR` links the terms of a list of tokens, told by position. Whether it does is settled by its two neighbours
alone, and every term has its place in one of the longest chains. -/
namespace CollectionSearch.Token

open Sequence (Listed)

variable {tokens : List Token} {i n : Nat}

def Follows (tokens : List Token) (i : Nat) : Prop :=
  ∃ j, j + 1 = i ∧ (tokens[j]? = some .either ∨ ∃ text, tokens[j]? = some (.term text))

/- An `OR` that has a term right behind it and a term or another `OR` right before it. -/
structure Joins (tokens : List Token) (i : Nat) : Prop where
  here : tokens[i]? = some .either
  next : ∃ text, tokens[i + 1]? = some (.term text)
  follows : Follows tokens i

inductive Literal (tokens : List Token) (i : Nat) : Text → Prop where
  | term {text : Text} (here : tokens[i]? = some (.term text)) : Literal tokens i text
  | either (here : tokens[i]? = some .either) (alone : ¬ Joins tokens i) : Literal tokens i "or".toText

inductive Links (tokens : List Token) : Nat → List Text → Prop where
  | done {i : Nat} (apart : ¬ Joins tokens i) : Links tokens i []
  | next {i : Nat} {text : Text} {rest : List Text} (joins : Joins tokens i)
    (here : tokens[i + 1]? = some (.term text)) (more : Links tokens (i + 2) rest) : Links tokens i (text :: rest)

def Opens (tokens : List Token) (i : Nat) : Prop := ∀ j, j + 1 = i → ¬ Joins tokens j

inductive Chain (tokens : List Token) (i : Nat) : List Text → Prop where
  | of {text : Text} {rest : List Text} (opens : Opens tokens i) (literal : Literal tokens i text)
    (links : Links tokens (i + 1) rest) : Chain tokens i (text :: rest)

def Group (tokens : List Token) (i : Nat) (group : List Text) : Prop :=
  ∃ texts, Chain tokens i texts ∧
    Listed (fun k text => texts[k]? = some text ∧ ∀ j < k, texts[j]? ≠ some text) 0 group

theorem apartOf {token : Token} (here : tokens[n]? = some token) (plain : token ≠ .either) : ¬ Joins tokens n :=
  fun joins => plain (Option.some.inj (here.symm.trans joins.here))

theorem literalApart {text : Text} (literal : Literal tokens i text) : ¬ Joins tokens i := by
  cases literal with
  | term here => exact apartOf here Token.noConfusion
  | either _ alone => exact alone

theorem opensBehind (apart : ¬ Joins tokens n) : Opens tokens (n + 1) := by
  intro j next
  obtain rfl : j = n := by omega
  exact apart

theorem followsIff {token : Token} (here : tokens[n]? = some token) :
    Follows tokens (n + 1) ↔ token = .either ∨ ∃ text, token = .term text := by
  simp only [Follows, Nat.add_right_cancel_iff, exists_eq_left, here, Option.some.injEq]

theorem literalUnique {text other : Text} (left : Literal tokens i text) (right : Literal tokens i other) :
    text = other := by
  cases left with
  | term here =>
    cases right with
    | term hereToo => exact Token.term.inj (Option.some.inj (here.symm.trans hereToo))
    | either hereToo => cases here.symm.trans hereToo
  | either here =>
    cases right with
    | term hereToo => cases here.symm.trans hereToo
    | either => rfl

theorem linksUnique {texts others : List Text} (left : Links tokens i texts) (right : Links tokens i others) :
    texts = others := by
  induction left generalizing others with
  | done apart =>
    cases right with
    | done => rfl
    | next joins => exact absurd joins apart
  | next joins here more ih =>
    cases right with
    | done apart => exact absurd joins apart
    | next _ hereToo moreToo =>
      rw [Token.term.inj (Option.some.inj (here.symm.trans hereToo)), ih moreToo]

theorem chainUnique {texts others : List Text} (left : Chain tokens i texts) (right : Chain tokens i others) :
    texts = others := by
  obtain ⟨_, literal, links⟩ := left
  obtain ⟨_, literalToo, linksToo⟩ := right
  rw [literalUnique literal literalToo, linksUnique links linksToo]

theorem groupIff {texts group : List Text} (chain : Chain tokens i texts) :
    Group tokens i group ↔ group = Text.distinct texts := by
  have listed := Text.distinctListed (Sequence.listedMembers texts)
  simp only [Nat.zero_le, true_implies] at listed
  constructor
  · rintro ⟨others, chainToo, listedToo⟩
    exact Sequence.listedUnique (chainUnique chain chainToo ▸ listedToo) listed
  · rintro rfl
    exact ⟨texts, chain, listed⟩

theorem groupNone {group : List Text} (none : ∀ text, ¬ Literal tokens i text) : ¬ Group tokens i group := by
  rintro ⟨_, ⟨_, literal, _⟩, _⟩
  exact none _ literal

theorem linksSome (tokens : List Token) (n : Nat) : ∃ texts, Links tokens n texts := by
  induction left : tokens.length - n using Nat.strong_induction_on generalizing n with
  | h left ih =>
    by_cases joins : Joins tokens n
    · obtain ⟨text, next⟩ := joins.next
      have within : n + 1 < tokens.length := (List.getElem?_eq_some_iff.mp next).1
      obtain ⟨rest, more⟩ := ih (tokens.length - (n + 2)) (by omega) (n + 2) rfl
      exact ⟨text :: rest, .next joins next more⟩
    · exact ⟨[], .done joins⟩

theorem linksAt {k : Nat} {texts : List Text} {text : Text} (links : Links tokens n texts)
    (within : k ≤ texts.length) (joins : Joins tokens (n + 2 * k))
    (next : tokens[n + 2 * k + 1]? = some (.term text)) : texts[k]? = some text := by
  induction links generalizing k with
  | done apart =>
    obtain rfl : k = 0 := by simpa using within
    exact absurd joins apart
  | @next n first rest _ here _ ih =>
    cases k with
    | zero =>
      rw [← Token.term.inj (Option.some.inj (here.symm.trans next))]
      rfl
    | succ k =>
      have past : n + 2 * (k + 1) = n + 2 + 2 * k := by omega
      rw [past] at joins next
      exact ih (Nat.le_of_succ_le_succ within) joins next

theorem literalBefore (joins : Joins tokens i) :
    ∃ j text, j + 1 = i ∧ Literal tokens j text := by
  obtain ⟨j, rfl, either | ⟨text, term⟩⟩ := joins.follows
  · refine ⟨j, _, rfl, .either either (fun joined => ?_)⟩
    obtain ⟨text, next⟩ := joined.next
    cases joins.here.symm.trans next
  · exact ⟨j, text, rfl, .term term⟩

/- Every literal has its place in a chain. The induction goes back to the literal that it is joined to. -/
theorem literalChained {text : Text} (literal : Literal tokens i text) :
    ∃ start texts k, Chain tokens start texts ∧ start + 2 * k = i ∧ texts[k]? = some text := by
  induction i using Nat.strong_induction_on generalizing text with
  | h i ih =>
    by_cases opens : Opens tokens i
    · obtain ⟨rest, links⟩ := linksSome tokens (i + 1)
      exact ⟨i, text :: rest, 0, .of opens literal links, rfl, rfl⟩
    · simp only [Opens, not_forall, not_not] at opens
      obtain ⟨j, rfl, joins⟩ := opens
      obtain ⟨m, before, rfl, literalToo⟩ := literalBefore joins
      obtain ⟨start, _, k, chain, rfl, placed⟩ := ih m (by omega) literalToo
      have next : tokens[start + 2 * k + 1 + 1]? = some (.term text) := by
        cases literal with
        | term here => exact here
        | either here =>
          obtain ⟨_, next⟩ := joins.next
          cases here.symm.trans next
      obtain ⟨opens, literal, links⟩ := id chain
      have within := (List.getElem?_eq_some_iff.mp placed).1
      have past : start + 2 * k + 1 = start + 1 + 2 * k := by omega
      rw [past] at joins next
      have later := linksAt links (Nat.le_of_lt_succ within) joins next
      exact ⟨start, _, k + 1, chain, by omega, later⟩

end CollectionSearch.Token
