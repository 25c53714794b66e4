import CollectionSearch.Query.Token

/-!
A parsed search line. Clauses are tokens once every `OR` is settled: an `OR` after a term and before a term makes the
second one an alternative of the first, and any other `OR` is the term that it spells. Kinds are alternatives of each
other, and so are the terms of one group; everything else must hold together. Chips are short texts for what restricts a
search, namely its kinds, its filters and its phrases.
-/
namespace CollectionSearch

inductive Clause where
  | term (text : Text)
  | alternative (text : Text)
  | phrase (text : Text)
  | kinds (names : List Text)
  | filter (filter : Filter)
  | excluded (text : Text)
  deriving DecidableEq, Repr

namespace Clause

def literalOr : Text := Text.lower Token.orWord

def ofTokens (afterTerm : Bool) : List Token → List Clause
  | [] => []
  | .either :: .term text :: rest =>
    if afterTerm then .alternative text :: ofTokens true rest
    else .term literalOr :: .term text :: ofTokens true rest
  | .either :: rest => .term literalOr :: ofTokens true rest
  | .term text :: rest => .term text :: ofTokens true rest
  | .phrase text :: rest => .phrase text :: ofTokens false rest
  | .kinds names :: rest => .kinds names :: ofTokens false rest
  | .filter f :: rest => .filter f :: ofTokens false rest
  | .excluded text :: rest => .excluded text :: ofTokens false rest

def chains : List Clause → List Text × List (List Text)
  | [] => ([], [])
  | .alternative text :: rest => let (front, groups) := chains rest; (text :: front, groups)
  | .term text :: rest => let (front, groups) := chains rest; ([], Text.distinct (text :: front) :: groups)
  | _ :: rest => ([], (chains rest).2)

def groups (clauses : List Clause) : List (List Text) := (chains clauses).2

def phrase? : Clause → Option Text
  | .phrase text => some text
  | _ => none

def excluded? : Clause → Option Text
  | .excluded text => some text
  | _ => none

def filter? : Clause → Option Filter
  | .filter f => some f
  | _ => none

def names : Clause → List Text
  | .kinds names => names
  | _ => []

end Clause

structure Parsed where
  raw : Text
  kinds : List Text
  filters : List Filter
  phrases : List Text
  groups : List (List Text)
  excluded : List Text
  deriving DecidableEq, Repr

namespace Parsed

def ofClauses (raw : Text) (clauses : List Clause) : Parsed where
  raw := raw
  kinds := Text.distinct (clauses.flatMap Clause.names)
  filters := Filter.latest (clauses.filterMap Clause.filter?)
  phrases := Text.distinct (clauses.filterMap Clause.phrase?)
  groups := Clause.groups clauses
  excluded := Text.distinct (clauses.filterMap Clause.excluded?)

def ofTokens (raw : Text) (tokens : List Token) : Parsed := ofClauses raw (Clause.ofTokens false tokens)

def parse (line : Text) : Except Fault Parsed := (Token.scan line).map (ofTokens line)

def hasCriteria (parsed : Parsed) : Bool :=
  !(parsed.kinds.isEmpty && parsed.filters.isEmpty && parsed.phrases.isEmpty && parsed.groups.isEmpty)

theorem criteriaNone {parsed : Parsed} : parsed.hasCriteria = false ↔
    parsed.kinds = [] ∧ parsed.filters = [] ∧ parsed.phrases = [] ∧ parsed.groups = [] := by
  simp [hasCriteria, and_assoc]

end Parsed
end CollectionSearch

namespace CollectionSearch.Chip

def fieldLabel : Field → Text
  | .status => "Status".toText
  | .year => "Year".toText
  | .rating => "Rating".toText
  | .creator => "By".toText
  | .visited => "Visited".toText
  | .genre => "Genre".toText
  | .archived => "Archived".toText
  | .unread => "Unread".toText
  | .other name => Text.title name

def valueText : FilterValue → Text
  | .text value => value
  | .number (.whole n) => Text.ofInt n
  | .number (.real x) => x.generalText
  | .flag value => if value then "yes".toText else "no".toText

def ofFilter (filter : Filter) : Text :=
  let label := fieldLabel filter.field
  match filter.field, filter.comparator with
  | .unread, _ => label
  | _, .equal => label ++ ": ".toText ++ valueText filter.value
  | _, comparator => label ++ .char ' ' :: comparator.symbol ++ .char ' ' :: valueText filter.value

def ofKinds (kinds : List Text) : List Text :=
  if kinds.isEmpty then []
  else ["Type: ".toText ++ Text.joinWith ", ".toText (Vocabulary.kinds.filter (kinds.contains ·))]

def ofPhrase (phrase : Text) : Text := (Piece.phrase phrase).written

def ofParsed (parsed : Parsed) : List Text :=
  ofKinds parsed.kinds ++ parsed.filters.map ofFilter ++ parsed.phrases.map ofPhrase

end CollectionSearch.Chip
