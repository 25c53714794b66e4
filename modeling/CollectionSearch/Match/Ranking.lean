import CollectionSearch.Catalog
import CollectionSearch.Match.Closeness
import CollectionSearch.Query.Parsed

/-!
Rankings: everything with some relevance, best first, where equals keep the order of the collections. Relevance goes
from 0 to 100, where 0 leaves an item out. Its kind, the filters, exclusions and phrases decide yes or no, and what an
item does not have satisfies no comparison; terms give the closeness of the weakest group, and a group that of its
best alternative.
-/
namespace CollectionSearch

namespace FilterValue

def isFlag (flag : Bool) : FilterValue → Bool
  | .flag value => flag == value
  | .number value => Number.compare? (.whole flag.toNat) value == some .eq
  | .text _ => false

def isText (text : Option Text) : FilterValue → Bool
  | .text value => text == some value
  | _ => false

def display : FilterValue → Text
  | .text value => value
  | .number value => value.text
  | .flag value => flagText value

end FilterValue

namespace Filter

def compares (filter : Filter) : Option Number → Except Fault Bool
  | none => .ok false
  | some actual =>
    let settle (result : Option Ordering) : Except Fault Bool :=
      match filter.comparator.accepts? result with
      | some accepted => .ok accepted
      | none => .error (.unknownComparator filter.comparator.symbol)
    match filter.value with
    | .number value => settle (actual.compare? value)
    | .flag value => settle (actual.compare? (.whole value.toNat))
    | .text value =>
      match filter.comparator with
      | .equal => .ok false
      | .other symbol => .error (.unknownComparator symbol)
      | comparator => .error (.incomparable comparator.symbol actual value)

def scope? : Field → Option Text
  | .visited => some Vocabulary.placeKind
  | .archived => some Vocabulary.noteKind
  | .unread => some Vocabulary.noteKind
  | _ => none

def inScope (filter : Filter) (item : Item) : Bool :=
  match scope? filter.field with
  | some kind => item.kind == kind
  | none => true

def hasGenre (value : FilterValue) (genres : List Text) : Bool :=
  genres.any (fun genre => Text.occursIn (Text.fold value.display) (Text.fold genre))

def passes (filter : Filter) (item : Item) : Except Fault Bool :=
  if !filter.inScope item then .ok false
  else match filter.field with
    | .status => .ok (filter.value.isText item.status)
    | .year => filter.compares item.year
    | .rating => filter.compares item.rating
    | .creator => .ok (filter.value.isText item.creator)
    | .visited => .ok (filter.value.isFlag (item.visited.getD false))
    | .archived => .ok (filter.value.isFlag (item.archived.getD false))
    | .unread => .ok (!item.read.getD false)
    | .genre => .ok (hasGenre filter.value item.genres)
    | .other _ => .ok false

def allPass (item : Item) : List Filter → Except Fault Bool
  | [] => .ok true
  | filter :: rest => do if ← filter.passes item then allPass item rest else return false

end Filter

namespace Parsed

def allowsKind (parsed : Parsed) (kind : Text) : Bool := parsed.kinds.isEmpty || parsed.kinds.contains kind

def admits (parsed : Parsed) (item : Item) : Except Fault Bool :=
  if parsed.allowsKind item.kind then Filter.allPass item parsed.filters else .ok false

end Parsed

namespace Item

def fields (item : Item) : List Text :=
  [item.title, item.content, Text.joinWith [.char ' '] (item.genres ++ item.tags)].filter (!·.isEmpty)

def mentions (item : Item) (term : Text) : Bool :=
  item.fields.any (fun field => Text.occursIn (Text.fold term) (Text.fold field))

def contains (item : Item) (phrase : Text) : Bool :=
  Text.occursIn (Text.fold phrase) (Text.fold item.title) ||
    Text.occursIn (Text.fold phrase) (Text.fold item.content)

end Item

namespace Relevance

def group (fields : List Text) (alternatives : List Text) : Except Fault Nat :=
  if alternatives.isEmpty then .error .noAlternatives
  else .ok ((alternatives.map (Closeness.best · fields)).foldl max 0)

def weakest (fields : List Text) (bound : Nat) : List (List Text) → Except Fault Nat
  | [] => .ok bound
  | alternatives :: rest => do
    let best ← group fields alternatives
    if best = 0 then return 0 else weakest fields (min bound best) rest

def score (parsed : Parsed) (item : Item) : Except Fault Nat := do
  if !(← parsed.admits item) then return 0
  else if parsed.excluded.any item.mentions then return 0
  else if !parsed.phrases.all item.contains then return 0
  else weakest item.fields Closeness.exact parsed.groups

def ofEntity (parsed : Parsed) (entity : Entity) : Except Fault Nat := do score parsed (← entity.toItem)

end Relevance

structure Ranked where
  kind : Text
  entity : Entity
  score : Nat

namespace Ranking

/-- Cuts a list at an end counted from the front, or from the back if negative; no end keeps all. -/
def upTo {α : Type} : Option Int → List α → List α
  | none, entries => entries
  | some (.ofNat n), entries => entries.take n
  | some (.negSucc n), entries => entries.take (entries.length - (n + 1))

def ofEntity (parsed : Parsed) (entity : Entity) : Except Fault Ranked := do
  let item ← entity.toItem
  return ⟨item.kind, entity, ← Relevance.score parsed item⟩

def full (parsed : Parsed) (entities : List Entity) : Except Fault (List Ranked) := do
  let entries ← entities.mapM (ofEntity parsed)
  return (entries.filter (0 < ·.score)).mergeSort (fun a b => b.score ≤ a.score)

def ofParsed (cap : Option Int) (parsed : Parsed) (snapshot : Snapshot) : Except Fault (List Ranked) :=
  if parsed.hasCriteria then (upTo cap) <$> full parsed snapshot.entities else .ok []

def ofLine (cap : Option Int) (line : Text) (snapshot : Snapshot) : Except Fault (List Ranked) := do
  ofParsed cap (← Parsed.parse line) snapshot

end Ranking
end CollectionSearch
