import CollectionSearch.Proofs.Sequence
import CollectionSearch.Query.Parsed

/-! Tokens once every `OR` is settled. Filters come out as they went in, groups hold a term, and a line can be
settled in two halves unless an `OR` stands at the cut. -/
namespace CollectionSearch

def Token.isTerm : Token → Bool
  | .term _ => true
  | _ => false

namespace Clause

def token : Clause → Token
  | .term text | .alternative text => .term text
  | .phrase text => .phrase text
  | .kinds names => .kinds names
  | .filter f => .filter f
  | .excluded text => .excluded text

theorem tokenOfClause {clause : Clause} {afterTerm : Bool} {tokens : List Token} :
    clause ∈ ofTokens afterTerm tokens → clause.token ∈ tokens ∨ clause = .term literalOr := by
  -- each case puts in front what it took off, so the members carry over one by one
  fun_induction ofTokens afterTerm tokens <;> grind [token]

theorem clauseOfToken {token : Token} (plain : token ≠ .either) {afterTerm : Bool} {tokens : List Token} :
    token ∈ tokens → token ∈ (ofTokens afterTerm tokens).map Clause.token := by
  fun_induction ofTokens afterTerm tokens <;> grind [Clause.token]

theorem filterOfTokens {f : Filter} {afterTerm : Bool} {tokens : List Token}
    (member : .filter f ∈ ofTokens afterTerm tokens) : .filter f ∈ tokens :=
  (tokenOfClause member).resolve_right nofun

theorem groupsNotNil (clauses : List Clause) : ∀ group ∈ groups clauses, group ≠ [] := by
  unfold groups
  fun_induction chains clauses with
  | case1 => simp
  | case2 text rest front later same ih => simpa [same] using ih
  | case3 text rest front later same ih =>
    simp only [same] at ih
    intro group member
    rcases List.mem_cons.mp member with rfl | behind
    · simp [Text.distinct]
    · exact ih group behind
  | case4 clause rest _ _ ih => exact ih

theorem groupsNodup (clauses : List Clause) : ∀ group ∈ groups clauses, group.Nodup := by
  unfold groups
  fun_induction chains clauses with
  | case1 => simp
  | case2 text rest front later same ih => simpa [same] using ih
  | case3 text rest front later same ih =>
    simp only [same] at ih
    intro group member
    rcases List.mem_cons.mp member with rfl | behind
    · exact Text.distinctNodup _
    · exact ih group behind
  | case4 clause rest _ _ ih => exact ih

theorem ofTokensFree {tokens : List Token} (head : tokens.head? ≠ some .either) (afterTerm : Bool) :
    ofTokens afterTerm tokens = ofTokens false tokens := by
  cases tokens with
  | nil => rfl
  | cons token rest =>
    cases token with
    | either => exact absurd rfl head
    | term text | phrase text | kinds names | filter f | excluded text => rfl

def afterTokens (afterTerm : Bool) (tokens : List Token) : Bool := (tokens.getLast?.map Token.isTerm).getD afterTerm

theorem afterTokensCons (afterTerm : Bool) (token : Token) (rest : List Token) :
    afterTokens afterTerm (token :: rest) = afterTokens token.isTerm rest := by
  simp only [afterTokens, List.getLast?_cons]
  cases rest.getLast? <;> rfl

/- The induction is on the settling of the front, and what carries over from one token to the next is whether it
was a term. Only an `OR` that is settled as a term leaves more than its token does. -/
theorem ofTokensBehind {front : List Token} (last : front.getLast? ≠ some .either) (afterTerm : Bool)
    (rest : List Token) :
    ofTokens afterTerm (front ++ rest) =
      ofTokens afterTerm front ++ ofTokens (afterTokens afterTerm front) rest := by
  fun_induction ofTokens afterTerm front with
  | case1 afterTerm => rfl
  | case2 text front ih =>
    have behind := ih (Sequence.lastBehind (Sequence.lastBehind last))
    rw [List.cons_append, List.cons_append, ofTokens, if_pos rfl, behind, afterTokensCons, afterTokensCons]
    rfl
  | case3 afterTerm text front fresh ih =>
    have behind := ih (Sequence.lastBehind (Sequence.lastBehind last))
    rw [List.cons_append, List.cons_append, ofTokens, if_neg fresh, behind, afterTokensCons, afterTokensCons]
    rfl
  | case4 afterTerm front other ih =>
    -- this `OR` has no term behind it, and by `last` it is not the last token, so the cut gives it none
    cases front with
    | nil => exact absurd rfl last
    | cons token front =>
      rw [List.cons_append, ofTokens, ih (Sequence.lastBehind last), afterTokensCons, afterTokensCons, afterTokensCons]
      · rfl
      · intro text more same
        cases same
        exact other text front rfl
  | case5 afterTerm text front ih | case6 afterTerm text front ih | case7 afterTerm names front ih
  | case8 afterTerm f front ih | case9 afterTerm text front ih =>
    rw [afterTokensCons]
    exact congrArg _ (ih (Sequence.lastBehind last))

theorem ofTokensAppend {front rest : List Token} (last : front.getLast? ≠ some .either)
    (head : rest.head? ≠ some .either) (afterTerm : Bool) :
    ofTokens afterTerm (front ++ rest) = ofTokens afterTerm front ++ ofTokens false rest := by
  rw [ofTokensBehind last, ofTokensFree head]

theorem chainsFront (tokens : List Token) : (chains (ofTokens false tokens)).1 = [] := by
  fun_cases ofTokens false tokens <;> simp_all [chains]

theorem chainsTerm (text : Text) (clauses : List Clause) (other : Text) :
    (other ∈ (chains (.term text :: clauses)).1 ∨ ∃ group ∈ (chains (.term text :: clauses)).2, other ∈ group) ↔
      other = text ∨ other ∈ (chains clauses).1 ∨ ∃ group ∈ (chains clauses).2, other ∈ group := by
  simp [chains, Text.memDistinct, or_assoc]

theorem chainsTerms (text : Text) (afterTerm : Bool) (tokens : List Token) :
    (text ∈ (chains (ofTokens afterTerm tokens)).1 ∨ ∃ group ∈ (chains (ofTokens afterTerm tokens)).2, text ∈ group) ↔
      .term text ∈ (ofTokens afterTerm tokens).map token := by
  fun_induction ofTokens afterTerm tokens with
  | case1 => simp [chains]
  | case2 other rest ih => simp [chains, token, or_assoc, ih]
  | case3 afterTerm other rest fresh ih => simp [chainsTerm, token, ih]
  | case4 afterTerm rest plain ih => simp [chainsTerm, token, ih]
  | case5 afterTerm other rest ih => simp [chainsTerm, token, ih]
  | case6 afterTerm other rest ih | case7 afterTerm names rest ih | case8 afterTerm f rest ih
  | case9 afterTerm other rest ih =>
    simp only [chainsFront, List.not_mem_nil, false_or] at ih
    simp [chains, token, ih]

theorem groupsTerms (text : Text) (tokens : List Token) :
    (∃ group ∈ groups (ofTokens false tokens), text ∈ group) ↔ .term text ∈ (ofTokens false tokens).map token := by
  have terms := chainsTerms text false tokens
  simpa only [groups, chainsFront, List.not_mem_nil, false_or] using terms

theorem chainsAppend (front : List Clause) {rest : List Clause} (free : (chains rest).1 = []) :
    chains (front ++ rest) = ((chains front).1, (chains front).2 ++ (chains rest).2) := by
  induction front with
  | nil => exact Prod.ext free rfl
  | cons clause front ih =>
    cases clause with
    | term text | alternative text | phrase text | kinds names | filter f | excluded text =>
      simp only [List.cons_append, chains, ih]

end Clause
end CollectionSearch
