import CollectionSearch.Proofs.Query.Clauses
import CollectionSearch.Proofs.Query.Cut

/-! Two search lines put behind each other. Apart from an `OR` at the cut and a `NOT` in front of it, the line
asks for what its halves ask for, and a filter of the second half replaces the one of its slot in the first. -/
namespace CollectionSearch
namespace Text

theorem distinctAppend (front rest : List Text) :
    distinct (front ++ rest) = distinct front ++ (distinct rest).filter (· ∉ front) := by
  induction front with
  | nil => simp [distinct]
  | cons s front ih =>
    rw [List.cons_append, distinct, ih, distinct, List.filter_append, List.filter_filter, List.cons_append]
    refine congrArg _ (congrArg _ (List.filter_congr (fun t _ => ?_)))
    simp [not_or]

end Text

namespace Filter

theorem sameSlotTrans {a b c : Filter} (left : sameSlot a b = true) (right : sameSlot b c = true) :
    sameSlot a c = true := by
  simp only [sameSlot, Bool.and_eq_true, decide_eq_true_eq] at left right ⊢
  exact ⟨left.1.trans right.1, left.2.trans right.2⟩

theorem latestSlots (f : Filter) (filters : List Filter) :
    (latest filters).any (sameSlot f) = filters.any (sameSlot f) := by
  induction filters with
  | nil => rfl
  | cons head rest ih =>
    rw [latest, List.any_cons]
    split
    · rename_i later
      rw [ih]
      cases same : sameSlot f head with
      | false => rfl
      | true =>
        obtain ⟨g, member, again⟩ := List.any_eq_true.mp later
        exact List.any_eq_true.mpr ⟨g, member, sameSlotTrans same again⟩
    · rw [List.any_cons, ih]

theorem latestAppend (front rest : List Filter) :
    latest (front ++ rest) =
      (latest front).filter (fun f => !(latest rest).any (sameSlot f)) ++ latest rest := by
  induction front with
  | nil => rfl
  | cons f front ih =>
    rw [List.cons_append, latest, latest, List.any_append, ih]
    cases front.any (sameSlot f) with
    | true => rfl
    | false =>
      cases later : rest.any (sameSlot f) <;> simp [latestSlots, later]

end Filter

namespace Parsed

structure Followed (first second joined : Parsed) : Prop where
  kinds : ∀ name, name ∈ joined.kinds ↔ name ∈ first.kinds ∨ name ∈ second.kinds
  excluded : ∀ text, text ∈ joined.excluded ↔ text ∈ first.excluded ∨ text ∈ second.excluded
  groups : joined.groups = first.groups ++ second.groups
  phrases : joined.phrases = first.phrases ++ second.phrases.filter (· ∉ first.phrases)
  filters : joined.filters =
    first.filters.filter (fun f => !second.filters.any (Filter.sameSlot f)) ++ second.filters

theorem clausesFollowed (left right line : Text) (front : List Clause) {rest : List Clause}
    (free : (Clause.chains rest).1 = []) :
    Followed (ofClauses left front) (ofClauses right rest) (ofClauses line (front ++ rest)) where
  kinds name := by simp [ofClauses, Text.memDistinct]
  excluded text := by simp [ofClauses, Text.memDistinct]
  groups := by simp only [ofClauses, Clause.groups, Clause.chainsAppend front free]
  phrases := by
    simp only [ofClauses, List.filterMap_append, Text.distinctAppend, Text.memDistinct]
  filters := by simp only [ofClauses, List.filterMap_append, Filter.latestAppend]

theorem parseJoined {left gap right : Text} {first second : Parsed} (apart : Piece.Apart left right)
    (notLast : (Piece.scan left).getLast? ≠ some (.word Segment.notWord))
    (orLast : (Piece.scan left).getLast? ≠ some (.word Token.orWord))
    (orHead : (Piece.scan right).head? ≠ some (.word Token.orWord)) (nonempty : gap ≠ [])
    (blank : ∀ c ∈ gap, Text.isBlank c = true) (leftOk : parse left = .ok first)
    (rightOk : parse right = .ok second) :
    ∃ joined, parse (left ++ gap ++ right) = .ok joined ∧ Followed first second joined := by
  obtain ⟨front, leftScanned, rfl⟩ := parseOk.mp leftOk
  obtain ⟨rest, rightScanned, rfl⟩ := parseOk.mp rightOk
  have scanned := Token.scanJoined apart nonempty blank notLast leftScanned rightScanned
  -- the pieces at the cut are no `OR`, so neither are the tokens there, and the clauses split as well
  have last : front.getLast? ≠ some .either := mt (Token.scanLast leftScanned) orLast
  have head : rest.head? ≠ some .either := mt (Token.scanHead rightScanned) orHead
  refine ⟨_, parseOk.mpr ⟨_, scanned, rfl⟩, ?_⟩
  unfold ofTokens
  rw [Clause.ofTokensAppend last head]
  exact clausesFollowed _ _ _ _ (Clause.chainsFront rest)

theorem parseJoinedOfYears :
    let left := "batman OR robin year>2000 \"the end\" @film NOT spoiler".toText
    let gap := "  ".toText
    let right := "year>2010 @tv dune".toText
    ∃ first second joined,
      parse left = .ok first ∧ parse right = .ok second ∧
      parse (left ++ gap ++ right) = .ok joined ∧ Followed first second joined ∧
      joined.groups = [["batman".toText, "robin".toText], ["dune".toText]] ∧
      joined.filters = [⟨.year, .above, .number (.whole 2010)⟩] := by
  intro left gap right
  let first : Parsed := {
    raw := left, kinds := ["movie".toText], filters := [⟨.year, .above, .number (.whole 2000)⟩]
    phrases := ["the end".toText], groups := [["batman".toText, "robin".toText]], excluded := ["spoiler".toText] }
  let second : Parsed := {
    raw := right, kinds := ["tv".toText], filters := [⟨.year, .above, .number (.whole 2010)⟩]
    phrases := [], groups := [["dune".toText]], excluded := [] }
  have leftOk : parse left = .ok first := Outcome.okOfToOption (by decide +kernel)
  have rightOk : parse right = .ok second := Outcome.okOfToOption (by decide +kernel)
  have blank : ∀ c ∈ gap, Text.isBlank c = true := by decide
  obtain ⟨joined, ok, followed⟩ := parseJoined (Or.inr (by decide)) (by decide +kernel) (by decide +kernel)
    (by decide +kernel) (List.cons_ne_nil _ _) blank leftOk rightOk
  exact ⟨first, second, joined, leftOk, rightOk, ok, followed, followed.groups, followed.filters⟩

end Parsed
end CollectionSearch
