import CollectionSearch.Catalog
import CollectionSearch.Number.Reading
import CollectionSearch.Text.Case

/-!
Records from objects. Each field has a rule for every kind of value that it may meet; text is trimmed, and
what may be spelled in two ways is looked up under the first name before the second.
-/
namespace CollectionSearch.Import

open Json (Members)

def get (members : Members) (key : String) : Option Json := members.lookup key.toText

def either (members : Members) (first second : String) : Option Json :=
  (get members first).or (get members second)

def textOf : Option Json → Text
  | none => []
  | some .null => []
  | some value => Text.trim value.display

def textOrNone (value : Option Json) : Option Text :=
  match textOf value with
  | [] => none
  | c :: rest => some (c :: rest)

def wordOf (otherwise : Text) (values : List (Option Json)) : Text :=
  match (values.filterMap id).find? Json.isPresent with
  | some value => Text.lower (Text.trim value.display)
  | none => otherwise

def required (members : Members) (key : String) : Except Fault Text :=
  match textOf (get members key) with
  | [] => .error (.missingField key.toText)
  | c :: rest => .ok (c :: rest)

def listOf : Option Json → List Text
  | some (.array items) => (items.filter Json.isPresent).map (Text.trim ·.display)
  | some (.text value) => ((Text.splitOn (.char ',') value).map Text.trim).filter (!·.isEmpty)
  | _ => []

/-- A number is always made real. A flag is no number, and an empty text is none. -/
def numberOf : Option Json → Except Fault (Option Number)
  | none => .ok none
  | some .null => .ok none
  | some (.flag _) => .ok none
  | some (.text []) => .ok none
  | some (.text value) => (some ∘ .real) <$> Number.readReal value
  | some (.number value) => (some ∘ .real) <$> value.toReal
  | some value => .error (.realOfCollection value)

def trueWords : List Text := ["true".toText, "yes".toText, "1".toText]

def flagOf : Option Json → Bool
  | none => false
  | some (.text value) => trueWords.contains (Text.lower (Text.trim value))
  | some value => value.isPresent

def userOf (value : Option Json) : Option Text :=
  let user := Text.upper (textOf value)
  if Vocabulary.users.contains user then some user else none

def ratingsOf : Option Json → Except Fault (Option (List (Text × Option Number)))
  | some (.object ratings) => do
    let mentioned := Vocabulary.users.filter (fun user => (ratings.lookup user).isSome)
    some <$> mentioned.mapM (fun user => return (user, ← numberOf (ratings.lookup user)))
  | _ => .ok none

def media (members : Members) : Except Fault Media := do
  let kind := wordOf [] [get members "type", get members "media_type"]
  if !Vocabulary.mediaKinds.contains kind then throw (.unknownMediaKind kind)
  let status := wordOf Vocabulary.queued [get members "status"]
  if !Vocabulary.statuses.contains status then throw (.unknownStatus status)
  let ratings ← ratingsOf (get members "ratings")
  let id ← required members "id"
  let title ← required members "title"
  let rating ← numberOf (get members "rating")
  return {
    id := id
    kind := kind
    title := title
    creator := userOf (either members "createdBy" "created_by")
    status := status
    rating := rating
    ratings := ratings
    overview := textOf (get members "overview")
    notes := textOf (get members "notes")
    releaseDate := textOrNone (either members "releaseDate" "release_date")
    genres := listOf (get members "genres")
    posterPath := textOrNone (either members "posterPath" "poster_path") }

def note (members : Members) : Except Fault Note := do
  let id ← required members "id"
  return {
    id := id
    title := textOf (get members "title")
    content := textOf (get members "content")
    tags := listOf (get members "tags")
    creator := userOf (either members "createdBy" "created_by")
    read := flagOf (get members "read")
    archived := flagOf (get members "archived") }

def place (members : Members) : Except Fault Place := do
  let category := wordOf Vocabulary.otherCategory [get members "category"]
  let id ← required members "id"
  let name ← required members "name"
  let rating ← numberOf (get members "rating")
  return {
    id := id
    name := name
    category := if Vocabulary.categories.contains category then category else Vocabulary.otherCategory
    notes := textOf (get members "notes")
    visited := flagOf (get members "visited")
    rating := rating
    creator := userOf (either members "createdBy" "created_by") }

end CollectionSearch.Import
