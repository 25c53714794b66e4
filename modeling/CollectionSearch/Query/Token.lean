import CollectionSearch.Catalog
import CollectionSearch.Number.Reading
import CollectionSearch.Query.Filter
import CollectionSearch.Text.Basic
import CollectionSearch.Text.Case

/-!
Pieces of a search line, and what each of them asks for. A phrase is what stands between two double quotes, if that is
not empty; a word is any other run without blanks, quotes that close nothing included. Words for kinds, statuses and
flags are told in lower case, and a word that asks for nothing that is known is a term. Only a year with more digits
than a numeral may have is refused.
-/
namespace CollectionSearch

inductive Piece where
  | phrase (text : Text)
  | word (text : Text)
  deriving DecidableEq, Repr

namespace Piece

def quote : CodePoint := .char '\x22'

def text : Piece → Text
  | .phrase text => text
  | .word text => text

def written : Piece → Text
  | .phrase text => quote :: text ++ [quote]
  | .word text => text

def span? (afterQuote : Text) : Option (Text × Text) :=
  match afterQuote.takeWhile (· ≠ quote), afterQuote.dropWhile (· ≠ quote) with
  | c :: inner, _ :: rest => some (c :: inner, rest)
  | _, _ => none

theorem lengthDropWhile (p : CodePoint → Bool) (s : Text) : (s.dropWhile p).length ≤ s.length :=
  (List.dropWhile_sublist p).length_le

theorem spanShorter {s inner rest : Text} (h : span? s = some (inner, rest)) : rest.length ≤ s.length := by
  unfold span? at h
  have bound := lengthDropWhile (· ≠ quote) s
  split at h
  · rename_i after
    simp only [Option.some.injEq, Prod.mk.injEq] at h
    rw [after, List.length_cons, h.2] at bound
    omega
  · contradiction

def next (c : CodePoint) (rest : Text) : Piece × Text :=
  match if c = quote then span? rest else none with
  | some (inner, tail) => (.phrase inner, tail)
  | none => (.word (c :: rest.takeWhile (!Text.isBlank ·)), rest.dropWhile (!Text.isBlank ·))

theorem nextShorter (c : CodePoint) (rest : Text) : (next c rest).2.length ≤ rest.length := by
  unfold next
  split
  · rename_i h
    split at h
    · exact spanShorter h
    · contradiction
  · exact lengthDropWhile _ _

def scan : Text → List Piece
  | [] => []
  | c :: rest =>
    if Text.isBlank c then scan rest
    else (next c rest).1 :: scan (next c rest).2
termination_by s => s.length
decreasing_by
  · simp
  · have := nextShorter c rest
    simp only [List.length_cons]
    omega

example : scan "a \"b c\"d e\"".toText =
    [.word [.char 'a'], .phrase "b c".toText, .word [.char 'd'], .word [.char 'e', quote]] := by decide +kernel

end Piece
namespace Alias

def kinds : List (Text × List Text) :=
  let movie := ["movie".toText]
  let tv := ["tv".toText]
  let game := ["game".toText]
  let note := [Vocabulary.noteKind]
  let place := [Vocabulary.placeKind]
  [("movie".toText, movie), ("movies".toText, movie), ("film".toText, movie), ("films".toText, movie),
   ("tv".toText, tv), ("show".toText, tv), ("shows".toText, tv), ("series".toText, tv),
   ("game".toText, game), ("games".toText, game),
   ("note".toText, note), ("notes".toText, note), ("message".toText, note), ("messages".toText, note),
   ("place".toText, place), ("places".toText, place),
   ("location".toText, place), ("locations".toText, place),
   ("media".toText, Vocabulary.mediaKinds)]

def statuses : List (Text × Text) :=
  let queued := Vocabulary.queued
  let watching := "watching".toText
  let completed := "completed".toText
  let dropped := "dropped".toText
  [("queued".toText, queued), ("queue".toText, queued), ("watching".toText, watching),
   ("playing".toText, watching), ("in-progress".toText, watching), ("inprogress".toText, watching),
   ("completed".toText, completed), ("done".toText, completed), ("finished".toText, completed),
   ("dropped".toText, dropped), ("abandoned".toText, dropped)]

def flags : List (Text × Bool) :=
  [("yes".toText, true), ("true".toText, true), ("no".toText, false), ("false".toText, false)]

theorem kindsKnown : ∀ entry ∈ kinds, ∀ kind ∈ entry.2, kind ∈ Vocabulary.kinds := by decide

theorem statusesKnown : ∀ entry ∈ statuses, entry.2 ∈ Vocabulary.statuses := by decide

end Alias

inductive Segment where
  | phrase (text : Text)
  | word (text : Text)
  | negated (text : Text)
  deriving DecidableEq, Repr

namespace Segment

def notWord : Text := "NOT".toText

def ofPieces : List Piece → List Segment
  | [] => []
  | .phrase text :: rest => .phrase text :: ofPieces rest
  | [.word text] => [.word text]
  | .word text :: piece :: rest =>
    if text = notWord then .negated piece.text :: ofPieces rest
    else .word text :: ofPieces (piece :: rest)

end Segment

inductive Token where
  | either
  | term (text : Text)
  | phrase (text : Text)
  | kinds (names : List Text)
  | filter (filter : Filter)
  | excluded (text : Text)
  deriving DecidableEq, Repr

namespace Token

def orWord : Text := "OR".toText

def isLetter (c : CodePoint) : Bool := c.between 'A' 'Z' || c.between 'a' 'z'

def splitKey? (word : Text) : Option (Text × Text) :=
  match word.takeWhile isLetter with
  | [] => none
  | c :: key => some (c :: key, word.dropWhile isLetter)

def comparison? (word : Text) : Option (Text × Comparator × Text) := do
  let (key, rest) ← splitKey? word
  match rest with
  | .char '>' :: .char '=' :: c :: value => some (key, .atLeast, c :: value)
  | .char '<' :: .char '=' :: c :: value => some (key, .atMost, c :: value)
  | .char '>' :: c :: value => some (key, .above, c :: value)
  | .char '<' :: c :: value => some (key, .below, c :: value)
  | _ => none

def assignment? (word : Text) : Option (Text × Text) := do
  let (key, rest) ← splitKey? word
  match rest with
  | .char ':' :: c :: value => some (key, c :: value)
  | _ => none

def finite? (value : Text) : Option Number := do
  let x ← Number.readReal? value
  if x.isFinite then some (.real x) else none

def numeric? (key : Text) (comparator : Comparator) (value : Text) : Except Fault (Option Token) := do
  if key = "year".toText then
    if Number.isWhole value then
      return some (.filter ⟨.year, comparator, .number (.whole (← Number.readWhole value))⟩)
    else return none
  else if key = "rating".toText then
    return (finite? value).map (fun x => .filter ⟨.rating, comparator, .number x⟩)
  else return none

def assigned? (key value : Text) : Except Fault (Option Token) :=
  let lowered := Text.lower value
  if key = "type".toText then .ok ((Alias.kinds.lookup lowered).map .kinds)
  else if key = "status".toText then
    .ok ((Alias.statuses.lookup lowered).map (fun status => .filter ⟨.status, .equal, .text status⟩))
  else if key = "by".toText ∨ key = "from".toText then
    .ok (if value ∈ Vocabulary.users then some (.filter ⟨.creator, .equal, .text value⟩) else none)
  else if key = "visited".toText then
    .ok ((Alias.flags.lookup lowered).map (fun flag => .filter ⟨.visited, .equal, .flag flag⟩))
  else if key = "archived".toText then
    .ok ((Alias.flags.lookup lowered).map (fun flag => .filter ⟨.archived, .equal, .flag flag⟩))
  else if key = "genre".toText then .ok (some (.filter ⟨.genre, .equal, .text lowered⟩))
  else if key = "is".toText ∧ lowered = "unread".toText then
    .ok (some (.filter ⟨.unread, .equal, .flag true⟩))
  else numeric? key .equal value

/-- A word with the shape of a comparison is never read as an assignment. -/
def ofWord (word : Text) : Except Fault Token :=
  let term := Token.term (Text.lower word)
  if word = orWord then .ok .either
  else match word with
    | .char '-' :: c :: rest => .ok (.excluded (Text.lower (c :: rest)))
    | .char '@' :: c :: rest => .ok (((Alias.kinds.lookup (Text.lower (c :: rest))).map .kinds).getD term)
    | _ =>
      match comparison? word with
      | some (key, comparator, value) =>
        (numeric? (Text.lower key) comparator value).map (·.getD term)
      | none =>
        match assignment? word with
        | some (key, value) => (assigned? (Text.lower key) value).map (·.getD term)
        | none => .ok term

def ofSegment : Segment → Except Fault Token
  | .phrase text => .ok (.phrase (Text.lower text))
  | .negated text => .ok (.excluded (Text.lower text))
  | .word text => ofWord text

def scan (line : Text) : Except Fault (List Token) := (Segment.ofPieces (Piece.scan line)).mapM ofSegment

end Token
end CollectionSearch
