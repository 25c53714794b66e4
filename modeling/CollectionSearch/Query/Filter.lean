import CollectionSearch.Number.Basic

/-!
Filters: a field, a comparator and the value to compare with. Fields and comparators outside the known
ones keep their name, so that every filter has a text.
-/
namespace CollectionSearch

inductive Field where
  | status
  | year
  | rating
  | creator
  | visited
  | genre
  | archived
  | unread
  | other (name : Text)
  deriving DecidableEq, Repr

namespace Field

def name : Field → Text
  | .status => "status".toText
  | .year => "year".toText
  | .rating => "rating".toText
  | .creator => "by".toText
  | .visited => "visited".toText
  | .genre => "genre".toText
  | .archived => "archived".toText
  | .unread => "unread".toText
  | .other name => name

end Field

inductive Comparator where
  | equal
  | above
  | below
  | atLeast
  | atMost
  | other (symbol : Text)
  deriving DecidableEq, Repr

namespace Comparator

def symbol : Comparator → Text
  | .equal => "=".toText
  | .above => ">".toText
  | .below => "<".toText
  | .atLeast => ">=".toText
  | .atMost => "<=".toText
  | .other symbol => symbol

def accepts? (result : Option Ordering) : Comparator → Option Bool
  | .equal => some (result == some .eq)
  | .above => some (result == some .gt)
  | .below => some (result == some .lt)
  | .atLeast => some (result == some .gt || result == some .eq)
  | .atMost => some (result == some .lt || result == some .eq)
  | .other _ => none

end Comparator

inductive FilterValue where
  | text (value : Text)
  | number (value : Number)
  | flag (value : Bool)
  deriving DecidableEq, Repr

structure Filter where
  field : Field
  comparator : Comparator
  value : FilterValue
  deriving DecidableEq, Repr

namespace Filter

def sameSlot (a b : Filter) : Bool := a.field = b.field && a.comparator = b.comparator

def latest : List Filter → List Filter
  | [] => []
  | f :: rest => if rest.any (sameSlot f) then latest rest else f :: latest rest

theorem latestMem {f : Filter} {filters : List Filter} (h : f ∈ latest filters) : f ∈ filters := by
  induction filters with
  | nil => simp [latest] at h
  | cons head rest ih =>
    simp only [latest] at h
    split at h
    · exact List.mem_cons_of_mem _ (ih h)
    · rcases List.mem_cons.mp h with rfl | tail
      · exact List.mem_cons_self
      · exact List.mem_cons_of_mem _ (ih tail)

theorem latestDistinct (filters : List Filter) :
    (latest filters).Pairwise (fun a b => sameSlot a b = false) := by
  induction filters with
  | nil => exact .nil
  | cons head rest ih =>
    simp only [latest]
    split
    · exact ih
    · rename_i fresh
      refine .cons (fun f h => ?_) ih
      simp only [List.any_eq_true, not_exists, not_and, Bool.not_eq_true] at fresh
      exact fresh f (latestMem h)

end Filter
end CollectionSearch
