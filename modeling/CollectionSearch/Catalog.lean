import CollectionSearch.Json.Value
import CollectionSearch.Number.Reading
import CollectionSearch.Text.Basic

/-!
Records of the three collections, and items, the one shape in which records of every kind are searched. Media are films,
series and games to watch or play, notes are left by one user for the other, and places are to be visited. The closed
vocabularies of the catalog stand in their order of display.
-/
namespace CollectionSearch.Vocabulary

def users : List Text := ["Z".toText, "T".toText]

def mediaKinds : List Text := ["movie".toText, "tv".toText, "game".toText]

def noteKind : Text := "note".toText

def placeKind : Text := "place".toText

def kinds : List Text := mediaKinds ++ [noteKind, placeKind]

def queued : Text := "queued".toText

def statuses : List Text := [queued, "watching".toText, "completed".toText, "dropped".toText]

def otherCategory : Text := "other".toText

def categories : List Text :=
  ["restaurant".toText, "cafe".toText, "bar".toText, "attraction".toText, "park".toText, otherCategory]

end CollectionSearch.Vocabulary

namespace CollectionSearch

structure Media where
  id : Text
  kind : Text
  title : Text
  creator : Option Text
  status : Text
  rating : Option Number
  ratings : Option (List (Text × Option Number))
  overview : Text
  notes : Text
  releaseDate : Option Text
  genres : List Text
  posterPath : Option Text
  deriving DecidableEq, Repr

structure Note where
  id : Text
  title : Text
  content : Text
  tags : List Text
  creator : Option Text
  read : Bool
  archived : Bool
  deriving DecidableEq, Repr

structure Place where
  id : Text
  name : Text
  category : Text
  notes : Text
  visited : Bool
  rating : Option Number
  creator : Option Text
  deriving DecidableEq, Repr

inductive Entity where
  | media (record : Media)
  | note (record : Note)
  | place (record : Place)
  | unsupported (value : Json)

structure Snapshot where
  media : List Entity
  notes : List Entity
  places : List Entity

namespace Snapshot

def empty : Snapshot := ⟨[], [], []⟩

def entities (snapshot : Snapshot) : List Entity := snapshot.media ++ snapshot.notes ++ snapshot.places

def size (snapshot : Snapshot) : Nat := snapshot.entities.length

end Snapshot

structure Item where
  id : Text
  kind : Text
  title : Text
  content : Text
  status : Option Text
  rating : Option Number
  year : Option Number
  creator : Option Text
  genres : List Text
  tags : List Text
  archived : Option Bool
  read : Option Bool
  visited : Option Bool
  deriving DecidableEq, Repr

def untitled : Text := "Untitled".toText

def orUntitled (title : Text) : Text :=
  match Text.trim title with
  | [] => untitled
  | c :: rest => c :: rest

def joinParts (parts : List Text) : Text :=
  Text.joinWith [.char ' '] ((parts.map Text.trim).filter (!·.isEmpty))

namespace Media

def ratingBy? (media : Media) (user : Text) : Option Number := do
  (← (← media.ratings).lookup user)

def displayRating (media : Media) : Except Fault (Option Number) :=
  match Vocabulary.users.filterMap media.ratingBy? with
  | [] => .ok media.rating
  | [one] => .ok (some one)
  | one :: two :: _ => some <$> Number.mean one two

/-- The year that the release date starts with. Four characters that are digits in the wider sense are
taken for a year, whether or not they denote a number. -/
def releaseYear (media : Media) : Except Fault (Option Number) :=
  let head := (Text.trim (media.releaseDate.getD [])).take 4
  if head.isEmpty || !head.all Text.isDigit then .ok none
  else (some ∘ .whole) <$> Number.wholeOfDigits head

def toItem (media : Media) : Except Fault Item := do
  let rating ← media.displayRating
  let year ← media.releaseYear
  return {
    id := media.id
    kind := media.kind
    title := orUntitled media.title
    content := joinParts [media.overview, media.notes]
    status := some media.status
    rating := rating
    year := year
    creator := media.creator
    genres := media.genres
    tags := []
    archived := none
    read := none
    visited := none }

end Media

namespace Note

def borrowedLength : Nat := 60

def displayTitle (note : Note) : Text :=
  match Text.trim note.title with
  | [] => orUntitled (((Text.trim note.content).takeWhile (!Text.isLineEnd ·)).take borrowedLength)
  | c :: rest => c :: rest

def toItem (note : Note) : Item where
  id := note.id
  kind := Vocabulary.noteKind
  title := note.displayTitle
  content := note.content
  status := none
  rating := none
  year := none
  creator := note.creator
  genres := []
  tags := note.tags
  archived := some note.archived
  read := some note.read
  visited := none

end Note

namespace Place

def toItem (place : Place) : Item where
  id := place.id
  kind := Vocabulary.placeKind
  title := orUntitled place.name
  content := place.notes
  status := none
  rating := place.rating
  year := none
  creator := place.creator
  genres := []
  tags := if place.category.isEmpty then [] else [place.category]
  archived := none
  read := none
  visited := some place.visited

end Place

def Entity.toItem : Entity → Except Fault Item
  | .media record => record.toItem
  | .note record => .ok record.toItem
  | .place record => .ok record.toItem
  | .unsupported value => .error (.unsupportedEntity value)

end CollectionSearch
