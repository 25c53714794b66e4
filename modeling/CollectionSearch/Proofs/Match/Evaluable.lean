import CollectionSearch.Match.Ranking
import CollectionSearch.Proofs.Query.Clauses
import CollectionSearch.Proofs.Query.Word

/-! Searches that can be tried on every item: numeric filters compare with a number, genre filters look for
a text, and no group is empty. Whatever is read from a line is such a search. -/
namespace CollectionSearch
namespace Filter

def Evaluable (f : Filter) : Prop :=
  (f.field = .year ∨ f.field = .rating → f.comparator.Known ∧ ∃ n, f.value = .number n) ∧
  (f.field = .genre → ∃ text, f.value = .text text)

theorem writtenEvaluable {f : Filter} (written : f.Written) : f.Evaluable := by
  cases written with
  | year comparator known n => exact ⟨fun _ => ⟨known, _, rfl⟩, nofun⟩
  | rating comparator known x finite => exact ⟨fun _ => ⟨known, _, rfl⟩, nofun⟩
  | genre c rest => exact ⟨fun numeric => by simp at numeric, fun _ => ⟨_, rfl⟩⟩
  | status | creator | visited | archived | unread => exact ⟨fun numeric => by simp at numeric, nofun⟩

theorem comparesDecided {f : Filter} (known : f.comparator.Known) {n : Number} (value : f.value = .number n)
    (actual : Option Number) : ∃ passed, f.compares actual = .ok passed := by
  cases actual with
  | none => exact ⟨false, rfl⟩
  | some actual =>
    simp only [compares, value]
    cases shape : f.comparator with
    | other symbol => exact absurd shape (known symbol)
    | equal | above | below | atLeast | atMost => exact ⟨_, rfl⟩

theorem passesDecided {f : Filter} (evaluable : f.Evaluable) (item : Item) :
    ∃ passed, f.passes item = .ok passed := by
  unfold passes
  split
  · exact ⟨false, rfl⟩
  cases field : f.field with
  | year =>
    obtain ⟨known, n, value⟩ := evaluable.1 (Or.inl field)
    exact comparesDecided known value item.year
  | rating =>
    obtain ⟨known, n, value⟩ := evaluable.1 (Or.inr field)
    exact comparesDecided known value item.rating
  | status | creator | visited | genre | archived | unread | other => exact ⟨_, rfl⟩

theorem allPassDecided {filters : List Filter} (evaluable : ∀ f ∈ filters, f.Evaluable) (item : Item) :
    (allPass item filters = .ok true ∧ ∀ f ∈ filters, f.passes item = .ok true) ∨
    (allPass item filters = .ok false ∧ ∃ f ∈ filters, f.passes item = .ok false) := by
  induction filters with
  | nil => exact Or.inl ⟨rfl, by simp⟩
  | cons head tail ih =>
    obtain ⟨passed, tried⟩ := passesDecided (evaluable head List.mem_cons_self) item
    have next := ih (fun f member => evaluable f (List.mem_cons_of_mem _ member))
    cases passed with
    | false =>
      refine Or.inr ⟨?_, head, List.mem_cons_self, tried⟩
      simp [allPass, tried, bind, Except.bind, pure, Except.pure]
    | true =>
      have goes : allPass item (head :: tail) = allPass item tail := by
        simp [allPass, tried, bind, Except.bind]
      rw [goes]
      rcases next with ⟨all, each⟩ | ⟨all, f, member, fails⟩
      · exact Or.inl ⟨all, List.forall_mem_cons.mpr ⟨tried, each⟩⟩
      · exact Or.inr ⟨all, f, List.mem_cons_of_mem _ member, fails⟩

end Filter

namespace Parsed

structure Evaluable (parsed : Parsed) : Prop where
  groups : ∀ group ∈ parsed.groups, group ≠ []
  filters : ∀ f ∈ parsed.filters, f.Evaluable

theorem allowsKindIff (parsed : Parsed) (kind : Text) :
    parsed.allowsKind kind = true ↔ parsed.kinds = [] ∨ kind ∈ parsed.kinds := by
  simp [allowsKind]

theorem admitsDecided {parsed : Parsed} (evaluable : parsed.Evaluable) (item : Item) :
    (parsed.admits item = .ok true ∧ (parsed.kinds = [] ∨ item.kind ∈ parsed.kinds) ∧
      ∀ f ∈ parsed.filters, f.passes item = .ok true) ∨
    (parsed.admits item = .ok false ∧ ((parsed.kinds ≠ [] ∧ item.kind ∉ parsed.kinds) ∨
      ∃ f ∈ parsed.filters, f.passes item = .ok false)) := by
  unfold admits
  split
  · rename_i allowed
    have kind := (allowsKindIff parsed item.kind).mp allowed
    rcases Filter.allPassDecided evaluable.filters item with ⟨all, each⟩ | ⟨all, fails⟩
    · exact Or.inl ⟨all, kind, each⟩
    · exact Or.inr ⟨all, Or.inr fails⟩
  · rename_i refused
    have other := mt (allowsKindIff parsed item.kind).mpr refused
    exact Or.inr ⟨rfl, Or.inl (not_or.mp other)⟩

theorem parseWritten {line : Text} {parsed : Parsed} (ok : parse line = .ok parsed) :
    ∀ f ∈ parsed.filters, f.Written := by
  obtain ⟨tokens, scanned, rfl⟩ := parseOk.mp ok
  intro f member
  obtain ⟨clause, present, shape⟩ := List.mem_filterMap.mp (Filter.latestMem member)
  have same : clause = .filter f := by cases clause <;> simp_all [Clause.filter?]
  obtain ⟨segment, _, read⟩ := Outcome.eachOkMem scanned (Clause.filterOfTokens (same ▸ present))
  exact Token.ofSegmentWritten read

theorem parseEvaluable {line : Text} {parsed : Parsed} (ok : parse line = .ok parsed) : parsed.Evaluable := by
  refine ⟨?_, fun f member => Filter.writtenEvaluable (parseWritten ok f member)⟩
  obtain ⟨tokens, _, rfl⟩ := parseOk.mp ok
  exact Clause.groupsNotNil _

end Parsed
end CollectionSearch
