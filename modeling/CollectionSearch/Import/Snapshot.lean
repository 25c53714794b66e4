import CollectionSearch.Host
import CollectionSearch.Import.Record
import CollectionSearch.Json.Reader
import CollectionSearch.Text.Utf8

/-!
Import of a snapshot: three files in one directory, each read on its own, line by line. A line that is not blank gives
one record or one warning, and what it gives depends on the line alone. Only a fault that does not lie in one record
ends the import; a file that is not text ends it in any case, after the lines that stand in the blocks before the
fault. A file that is not there is an empty collection, a directory that is not there is a fault.
-/
namespace CollectionSearch.Import

/-- The lines of a file, each with a line feed for the way in which it ends. Only the last one may do without. -/
def lines : Text → List Text
  | [] => []
  | .char '\r' :: .char '\n' :: rest => [.char '\n'] :: lines rest
  | .char '\r' :: rest => [.char '\n'] :: lines rest
  | .char '\n' :: rest => [.char '\n'] :: lines rest
  | c :: rest =>
    match lines rest with
    | [] => [[c]]
    | line :: more => (c :: line) :: more

example : lines "a\r\nb\r\n\nc".toText = ["a\n".toText, "b\n".toText, "\n".toText, "c".toText] := by decide +kernel

inductive Warning where
  | malformed (line : Nat) (cause : Text)
  | spoiled (label : Text) (line : Nat) (fault : Fault)

def Warning.message : Warning → Text
  | .malformed line cause =>
    "[DataLoader] Skipping invalid JSON at line ".toText ++ Text.ofNat line ++ ": ".toText ++ cause
  | .spoiled label line fault =>
    "[DataLoader] Skipping invalid ".toText ++ label ++ " at line ".toText ++ Text.ofNat line ++
      ": ".toText ++ fault.message

inductive Outcome (α : Type) where
  | blank
  | record (value : α)
  | malformed (cause : Text)
  | spoiled (fault : Fault)

namespace Outcome

def record? {α : Type} : Outcome α → Option α
  | .record value => some value
  | _ => none

def warning? {α : Type} (label : Text) (line : Nat) : Outcome α → Option Warning
  | .malformed cause => some (.malformed line cause)
  | .spoiled fault => some (.spoiled label line fault)
  | _ => none

def ofResult {α : Type} : Except Fault α → Except Fault (Outcome α)
  | .ok value => .ok (.record value)
  | .error fault => if fault.spoilsRecord then .ok (.spoiled fault) else .error fault

def ofValue {α : Type} (convert : Json.Members → Except Fault α) : Json → Except Fault α
  | .object members => convert members
  | _ => .error .notAnObject

def ofLine {α : Type} (limit : Nat) (convert : Json.Members → Except Fault α) (line : Text) :
    Except Fault (Outcome α) :=
  if Text.isBlankOnly line then .ok .blank
  else match Json.read limit line with
    | .ok value => ofResult (ofValue convert value)
    | .error (.malformed refusal) => .ok (.malformed (refusal.message line))
    | .error (.oversized digits) => ofResult (.error (.oversizedNumeral digits))
    | .error (.nested inArray) => ofResult (.error (.nestedTooDeeply inArray))

end Outcome

structure Loaded (α : Type) where
  records : List α
  warnings : List Warning

def ofOutcomes {α : Type} (label : Text) (outcomes : List (Outcome α)) : Loaded α where
  records := outcomes.filterMap Outcome.record?
  warnings := (outcomes.zipIdx 1).filterMap (fun (outcome, line) => outcome.warning? label line)

def ofText {α : Type} (limit : Nat) (label : Text) (convert : Json.Members → Except Fault α) (content : Text) :
    Except Fault (Loaded α) :=
  (ofOutcomes label) <$> (lines content).mapM (Outcome.ofLine limit convert)

/-- The lines that are known to have ended. A carriage return at the very end may be half of an end. -/
def endedLines (text : Text) : List Text :=
  let settled := if text.getLast? = some (.char '\r') then text.dropLast else text
  lines (settled.reverse.dropWhile (fun c => c != .char '\n' && c != .char '\r')).reverse

example : endedLines "a\rb\nc\r".toText = ["a\n".toText, "b\n".toText] := by decide +kernel

def ofBytes {α : Type} (limit : Nat) (label : Text) (convert : Json.Members → Except Fault α) (content : ByteArray) :
    Except Fault (Loaded α) :=
  match String.fromUTF8? content with
  | some content => ofText limit label convert content.toText
  | none => do
    let bytes := content.data.toList
    let _ ← (endedLines (Utf8.text none (Utf8.soundBlocks bytes))).mapM (Outcome.ofLine limit convert)
    .error (.undecodable (Utf8.refusal bytes))

def mediaFile : Text := "media.jsonl".toText
def notesFile : Text := "notes.jsonl".toText
def placesFile : Text := "places.jsonl".toText

def mediaLabel : Text := "media".toText
def noteLabel : Text := "note".toText
def placeLabel : Text := "place".toText

structure Export where
  media : Except Fault (Option ByteArray)
  notes : Except Fault (Option ByteArray)
  places : Except Fault (Option ByteArray)

structure Collections where
  media : Loaded Media
  notes : Loaded Note
  places : Loaded Place

namespace Collections

def snapshot (collections : Collections) : Snapshot where
  media := collections.media.records.map .media
  notes := collections.notes.records.map .note
  places := collections.places.records.map .place

def warnings (collections : Collections) : List Warning :=
  collections.media.warnings ++ collections.notes.warnings ++ collections.places.warnings

end Collections

def ofOptional {α : Type} (limit : Nat) (label : Text) (convert : Json.Members → Except Fault α) :
    Option ByteArray → Except Fault (Loaded α)
  | none => .ok ⟨[], []⟩
  | some content => ofBytes limit label convert content

def ofExport (limit : Nat) (files : Export) : Except Fault Collections := do
  let media ← ofOptional limit mediaLabel media (← files.media)
  let notes ← ofOptional limit noteLabel note (← files.notes)
  let places ← ofOptional limit placeLabel place (← files.places)
  return ⟨media, notes, places⟩

def contentAt (host : Host) (path : Path) : Except Fault (Option ByteArray) :=
  match host.find path with
  | .node (.file content) => .ok (some content)
  | .node (.directory _) => .error (.isDirectory path.text)
  | .nothing => .ok none
  | .nameTooLong => .error (.nameTooLong path.text)

def exportAt (host : Host) (path : Path) : Export where
  media := contentAt host (path.child mediaFile)
  notes := contentAt host (path.child notesFile)
  places := contentAt host (path.child placesFile)

def ofDirectory (host : Host) (directory : Text) : Except Fault Collections :=
  let path := Path.ofText directory
  match host.find path with
  | .node (.directory _) => ofExport host.nesting (exportAt host path)
  | .nameTooLong => .error (.nameTooLong path.text)
  | _ => .error (.missingDirectory path.text)

def ofFile {α : Type} (label : Text) (convert : Json.Members → Except Fault α) (host : Host) (file : Text) :
    Except Fault (Loaded α) := do
  let path := Path.ofText file
  match ← contentAt host path with
  | some content => ofBytes host.nesting label convert content
  | none => .error (.missingFile label path.text)

end CollectionSearch.Import
