import CollectionSearch.Match.Ranking
import Mathlib.Data.Int.Order.Basic
import Mathlib.Order.Compare
import Mathlib.Order.WithBot

/-! Comparators as relations of an order. Numbers are ordered as the quanta that they have, between two ends; a value
that is no number stands nowhere in that order and satisfies no comparator. -/
namespace CollectionSearch
namespace Comparator

def Holds {α : Type} [LinearOrder α] (left right : α) : Comparator → Prop
  | .equal => left = right
  | .above => right < left
  | .below => left < right
  | .atLeast => right ≤ left
  | .atMost => left ≤ right
  | .other _ => False

theorem acceptsHolds {α : Type} [LinearOrder α] {comparator : Comparator} {left right : α} :
    comparator.accepts? (some (cmp left right)) = some true ↔ comparator.Holds left right := by
  rcases lt_trichotomy left right with less | rfl | more
  · rw [(cmp_eq_lt_iff _ _).mpr less]
    cases comparator <;> simp [accepts?, Holds, less, less.ne, less.le, less.not_gt, less.not_ge]
  · rw [cmp_self_eq_eq]
    cases comparator <;> simp [accepts?, Holds]
  · rw [(cmp_eq_gt_iff _ _).mpr more]
    cases comparator <;> simp [accepts?, Holds, more, more.ne', more.le, more.not_gt, more.not_ge]

theorem acceptsNothing (comparator : Comparator) : comparator.accepts? none ≠ some true := by
  cases comparator with
  | equal | above | below | atLeast | atMost => decide
  | other symbol => exact nofun

end Comparator

namespace Extent

def rank : Extent → WithBot (WithTop Int)
  | .bottom => ⊥
  | .quanta n => ((n : WithTop Int) : WithBot (WithTop Int))
  | .top => ((⊤ : WithTop Int) : WithBot (WithTop Int))

theorem acceptsRank {comparator : Comparator} (a b : Extent) :
    comparator.accepts? (some (a.compare b)) = some true ↔ comparator.Holds a.rank b.rank := by
  have same : a.compare b = cmp a.rank b.rank := by
    cases a with
    | bottom =>
      cases b with
      | bottom => exact (cmp_self_eq_eq _).symm
      | quanta n | top => exact ((cmp_eq_lt_iff _ _).mpr (WithBot.bot_lt_coe _)).symm
    | quanta m =>
      cases b with
      | bottom => exact ((cmp_eq_gt_iff _ _).mpr (WithBot.bot_lt_coe _)).symm
      | quanta n =>
        have mono : StrictMono (rank ∘ quanta) := WithBot.coe_strictMono.comp WithTop.coe_strictMono
        exact (cmp_eq_compare m n).symm.trans (mono.cmp_map_eq m n).symm
      | top => exact ((cmp_eq_lt_iff _ _).mpr (WithBot.coe_lt_coe.mpr (WithTop.coe_lt_top m))).symm
    | top =>
      cases b with
      | bottom => exact ((cmp_eq_gt_iff _ _).mpr (WithBot.bot_lt_coe _)).symm
      | quanta n => exact ((cmp_eq_gt_iff _ _).mpr (WithBot.coe_lt_coe.mpr (WithTop.coe_lt_top n))).symm
      | top => exact (cmp_self_eq_eq _).symm
  rw [same, Comparator.acceptsHolds]

end Extent

namespace Number

def rank? (number : Number) : Option (WithBot (WithTop Int)) := number.extent?.map Extent.rank

theorem acceptsRank {comparator : Comparator} {a b : Number} :
    comparator.accepts? (a.compare? b) = some true ↔
      ∃ left right, a.rank? = some left ∧ b.rank? = some right ∧ comparator.Holds left right := by
  unfold compare? rank?
  cases a.extent? with
  | none => simp [comparator.acceptsNothing]
  | some x =>
    cases b.extent? with
    | none => simp [comparator.acceptsNothing]
    | some y =>
      show comparator.accepts? (some (x.compare y)) = some true ↔ _
      rw [Extent.acceptsRank]
      simp

theorem acceptsWhole {comparator : Comparator} {m n : Int} :
    comparator.accepts? (compare? (.whole m) (.whole n)) = some true ↔ comparator.Holds m n := by
  rw [compareWhole, ← cmp_eq_compare, Comparator.acceptsHolds]

end Number

namespace Filter

theorem comparesIff {f : Filter} {value : Number} (number : f.value = .number value) {actual : Option Number} :
    f.compares actual = .ok true ↔
      ∃ present, actual = some present ∧ f.comparator.accepts? (present.compare? value) = some true := by
  cases actual with
  | none => simp [compares]
  | some present =>
    simp only [compares, number, Option.some.injEq, exists_eq_left']
    cases f.comparator.accepts? (present.compare? value) <;> simp

end Filter
end CollectionSearch
