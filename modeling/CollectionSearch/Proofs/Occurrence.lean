import CollectionSearch.Proofs.Sequence
import CollectionSearch.Query.Filter

/-! What stands at the positions of a sequence, listed in order. What is listed is fixed by what stands where, so to
list something is to say all there is to say about its order and its members. What is said again is listed once,
texts where they stand first and filters where their slot stands last. -/
namespace CollectionSearch
namespace Sequence
variable {α β : Type} {stands other : Nat → α → Prop} {n : Nat}

inductive Listed (stands : Nat → α → Prop) : Nat → List α → Prop where
  | done {n : Nat} (free : ∀ i x, n ≤ i → ¬ stands i x) : Listed stands n []
  | next {n i : Nat} {x : α} {values : List α} (past : n ≤ i) (free : ∀ j y, n ≤ j → j < i → ¬ stands j y)
    (here : ∀ y, stands i y ↔ y = x) (rest : Listed stands (i + 1) values) : Listed stands n (x :: values)

theorem listedMem {values : List α} (listed : Listed stands n values) (x : α) :
    x ∈ values ↔ ∃ i, n ≤ i ∧ stands i x := by
  induction listed with
  | done free =>
    refine ⟨nofun, ?_⟩
    rintro ⟨i, past, found⟩
    exact absurd found (free i x past)
  | @next n i y values past free here rest ih =>
    rw [List.mem_cons, ih]
    constructor
    · rintro (rfl | ⟨j, behind, found⟩)
      · exact ⟨i, past, (here x).mpr rfl⟩
      · exact ⟨j, by omega, found⟩
    · rintro ⟨j, atLeast, found⟩
      rcases Nat.lt_trichotomy j i with before | rfl | behind
      · exact absurd found (free j x atLeast before)
      · exact .inl ((here x).mp found)
      · exact .inr ⟨j, behind, found⟩

theorem listedUnique {first second : List α} (left : Listed stands n first) (right : Listed stands n second) :
    first = second := by
  induction left generalizing second with
  | @done n free =>
    cases right with
    | done => rfl
    | next past _ here _ => exact absurd ((here _).mpr rfl) (free _ _ past)
  | @next n i x values past free here rest ih =>
    cases right with
    | done none => exact absurd ((here x).mpr rfl) (none i x past)
    | @next _ j y others pastToo freeToo hereToo restToo =>
      have same : i = j := by
        rcases Nat.lt_trichotomy i j with before | same | behind
        · exact absurd ((here x).mpr rfl) (freeToo i x past before)
        · exact same
        · exact absurd ((hereToo y).mpr rfl) (free j y pastToo behind)
      subst same
      rw [(hereToo x).mp ((here x).mpr rfl), ih restToo]

theorem listedCongr {values : List α} (same : ∀ i x, n ≤ i → (stands i x ↔ other i x))
    (listed : Listed stands n values) : Listed other n values := by
  induction listed with
  | done free => exact .done (fun i x past => mt (same i x past).mpr (free i x past))
  | @next n i x values past free here rest ih =>
    refine .next past (fun j y atLeast before => mt (same j y atLeast).mpr (free j y atLeast before)) ?_ ?_
    · exact fun y => (same i y past).symm.trans (here y)
    · exact ih (fun j y behind => same j y (by omega))

theorem listedFrom {m : Nat} {values : List α} (before : n ≤ m) (empty : ∀ i x, n ≤ i → i < m → ¬ stands i x)
    (listed : Listed stands m values) : Listed stands n values := by
  cases listed with
  | done free => exact .done (fun i x past => (Nat.lt_or_ge i m).elim (empty i x past) (free i x))
  | next past free here rest =>
    refine .next (before.trans past) (fun j y atLeast bounded => ?_) here rest
    exact (Nat.lt_or_ge j m).elim (empty j y atLeast) (fun behind => free j y behind bounded)

theorem listedFilterMap {f : α → Option β} {values : List α} (listed : Listed stands n values) :
    Listed (fun i y => ∃ x, stands i x ∧ f x = some y) n (values.filterMap f) := by
  induction listed with
  | done free => exact .done (fun i y past ⟨x, found, _⟩ => free i x past found)
  | @next n i x values past free here rest ih =>
    cases image : f x with
    | none =>
      rw [List.filterMap_cons_none image]
      refine listedFrom (by omega) (fun j y atLeast before ⟨z, found, value⟩ => ?_) ih
      rcases Nat.lt_succ_iff_lt_or_eq.mp before with before | rfl
      · exact free j z atLeast before found
      · rw [(here z).mp found, image] at value
        cases value
    | some y =>
      rw [List.filterMap_cons_some image]
      refine .next past (fun j z atLeast before ⟨w, found, _⟩ => free j w atLeast before found) (fun z => ?_) ih
      constructor
      · rintro ⟨w, found, value⟩
        rw [(here w).mp found, image] at value
        exact (Option.some.inj value).symm
      · rintro rfl
        exact ⟨x, (here x).mpr rfl, image⟩

theorem listedFilter {keep : α → Bool} {values : List α} (listed : Listed stands n values) :
    Listed (fun i x => stands i x ∧ keep x = true) n (values.filter keep) := by
  rw [← List.filterMap_eq_filter]
  refine listedCongr (fun i x _ => ?_) (listedFilterMap listed)
  simp [Option.guard_eq_some_iff]

theorem suffixHead {x : α} {values rest : List α} (suffix : values.drop n = x :: rest) :
    values[n]? = some x ∧ values.drop (n + 1) = rest := by
  rw [← List.head?_drop, ← List.tail_drop, suffix]
  exact ⟨rfl, rfl⟩

theorem listedMembers (values : List α) : Listed (fun i x => values[i]? = some x) 0 values := by
  have onward (rest : List α) : ∀ n, values.drop n = rest → Listed (fun i x => values[i]? = some x) n rest := by
    induction rest with
    | nil =>
      intro n ended
      refine .done (fun i x past found => ?_)
      have short := List.drop_eq_nil_iff.mp ended
      rw [List.getElem?_eq_none (by omega)] at found
      cases found
    | cons x rest ih =>
      intro n suffix
      obtain ⟨here, behind⟩ := suffixHead suffix
      refine .next le_rfl (fun j y atLeast before => absurd before (by omega)) (fun y => ?_) (ih (n + 1) behind)
      rw [here, Option.some.injEq, eq_comm]
  exact onward values 0 rfl

end Sequence

open Sequence (Listed)

namespace Text

theorem distinctListed {stands : Nat → Text → Prop} {n : Nat} {texts : List Text} (listed : Listed stands n texts) :
    Listed (fun i text => stands i text ∧ ∀ j, n ≤ j → j < i → ¬ stands j text) n (distinct texts) := by
  induction listed with
  | done free => exact .done (fun i text past found => free i text past found.1)
  | @next n i text texts past free here rest ih =>
    refine .next past (fun j other atLeast before found => free j other atLeast before found.1) (fun other => ?_) ?_
    · refine ⟨fun found => (here other).mp found.1, ?_⟩
      rintro rfl
      exact ⟨(here other).mpr rfl, fun j atLeast before => free j other atLeast before⟩
    · refine Sequence.listedCongr (fun j other behind => ?_) (Sequence.listedFilter ih)
      rw [decide_eq_true_eq, and_assoc]
      refine and_congr_right (fun found => ⟨?_, fun fresh => ⟨?_, ?_⟩⟩)
      · rintro ⟨later, different⟩ k atLeast before
        rcases Nat.lt_trichotomy k i with front | rfl | back
        · exact free k other atLeast front
        · exact mt (here other).mp different
        · exact later k back before
      · exact fun k back before => fresh k (by omega) before
      · rintro rfl
        exact fresh i past (by omega) ((here other).mpr rfl)

end Text

namespace Filter

theorem latestListed {stands : Nat → Filter → Prop} {n : Nat} {filters : List Filter} (listed : Listed stands n filters) :
    Listed (fun i f => stands i f ∧ ∀ j g, i < j → stands j g → sameSlot f g = false) n (latest filters) := by
  induction listed with
  | done free => exact .done (fun i f past found => free i f past found.1)
  | @next n i f filters past free here rest ih =>
    have replaced : filters.any (sameSlot f) = true ↔ ∃ j g, i < j ∧ stands j g ∧ sameSlot f g = true := by
      simp only [List.any_eq_true, Sequence.listedMem rest]
      constructor
      · rintro ⟨g, ⟨j, behind, found⟩, same⟩
        exact ⟨j, g, behind, found, same⟩
      · rintro ⟨j, g, behind, found, same⟩
        exact ⟨g, ⟨j, behind, found⟩, same⟩
    rw [latest]
    split
    · rename_i later
      obtain ⟨j, g, behind, found, same⟩ := replaced.mp later
      refine Sequence.listedFrom (by omega) (fun k h atLeast before held => ?_) ih
      rcases Nat.lt_succ_iff_lt_or_eq.mp before with front | rfl
      · exact free k h atLeast front held.1
      · have fresh := held.2 j g behind found
        rw [(here h).mp held.1, same] at fresh
        cases fresh
    · rename_i last
      refine .next past (fun j g atLeast before found => free j g atLeast before found.1) (fun g => ?_) ih
      refine ⟨fun found => (here g).mp found.1, ?_⟩
      rintro rfl
      refine ⟨(here g).mpr rfl, fun j h behind found => ?_⟩
      rw [← Bool.not_eq_true]
      exact fun same => last (replaced.mpr ⟨j, h, behind, found, same⟩)

end Filter

end CollectionSearch
