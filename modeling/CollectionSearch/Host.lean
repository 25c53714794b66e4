import CollectionSearch.Number.Reading
import CollectionSearch.Text.Case
import CollectionSearch.Text.Utf8

/-!
What a program runs on: a tree of files in which it stands somewhere, the depth to which it can follow a value, logging,
and an environment, from which it takes its settings, each with a default. None of it is settled here.
-/
namespace CollectionSearch

/-- A path in normal form: no empty and no single-dot part. Steps to the parent stay, and so do exactly two leading
slashes; three or more count as one. -/
structure Path where
  root : Text
  parts : List Text
  deriving DecidableEq, Repr

namespace Path

def rootOf (s : Text) : Text :=
  match (s.takeWhile (· = .char '/')).length with
  | 0 => []
  | 2 => [.char '/', .char '/']
  | _ => [.char '/']

def isPart (s : Text) : Bool := !s.isEmpty && s != [.char '.']

def ofText (s : Text) : Path := ⟨rootOf s, (Text.splitOn (.char '/') s).filter isPart⟩

def text (path : Path) : Text :=
  if path.root.isEmpty && path.parts.isEmpty then [.char '.']
  else path.root ++ Text.joinWith [.char '/'] path.parts

def child (path : Path) (name : Text) : Path := ⟨path.root, path.parts ++ [name]⟩

def partLimit : Nat := 255

def textLimit : Nat := 4095

example : (ofText "//a//./b/..".toText).text = "//a/b/..".toText := by decide +kernel

end Path

inductive Node where
  | file (content : ByteArray)
  | directory (entries : List (Text × Node))

inductive Found where
  | node (node : Node)
  | nothing
  | nameTooLong

/-- Follows the parts of a path, given the directories above and the topmost one, which is its own parent. A
name is looked up only in a directory that is there, and only then its length counts. -/
def Node.walk (top : Node) : (above : List Node) → Node → List Text → Found
  | _, here, [] => .node here
  | _, .file _, _ :: _ => .nothing
  | above, .directory entries, part :: rest =>
    if part = "..".toText then
      match above with
      | [] => walk top [] top rest
      | parent :: above => walk top above parent rest
    else if Path.partLimit < Utf8.size part then .nameTooLong
    else match entries.lookup part with
      | some node => walk top (.directory entries :: above) node rest
      | none => .nothing

structure Logging where
  setUp : Text → Except Text Unit
  usual : setUp "INFO".toText = .ok ()

namespace Logging

def ofLevels (levels : List Text) (usual : "INFO".toText ∈ levels) : Logging where
  setUp level :=
    if levels.contains level then .ok () else .error ("Level '".toText ++ level ++ "' does not exist".toText)
  usual := if_pos (List.contains_iff_mem.mpr usual)

def standard : Logging :=
  ofLevels ["TRACE".toText, "DEBUG".toText, "INFO".toText, "SUCCESS".toText, "WARNING".toText, "ERROR".toText,
    "CRITICAL".toText] (by decide)

end Logging

structure Host where
  root : Node
  working : List Text
  nesting : Nat
  logging : Logging

namespace Host

def usualNesting : Nat := 985

def standard (root : Node) : Host := ⟨root, [], usualNesting, .standard⟩

def find (host : Host) (path : Path) : Found :=
  if path.text.contains (.char '\x00') then .nothing
  else if Path.textLimit < Utf8.size path.text then .nameTooLong
  else host.root.walk [] host.root (if path.root.isEmpty then host.working ++ path.parts else path.parts)

end Host

abbrev Environment := List (Text × Text)

structure Settings where
  dataDirectory : Text
  logLevel : Text
  cap : Int
  address : Text
  deriving DecidableEq, Repr

namespace Settings

def dataVariable : Text := "TRACKER_DATA_DIR".toText
def levelVariable : Text := "TRACKER_LOG_LEVEL".toText
def capVariable : Text := "TRACKER_MAX_RESULTS".toText
def addressVariable : Text := "TRACKER_API_URL".toText

def variableNames : List Text := [dataVariable, levelVariable, capVariable, addressVariable]

def defaultCap : Int := 50

def capOf : Option Text → Except Fault Int
  | none => .ok defaultCap
  | some text =>
    if text.isEmpty || !text.all Text.isDigit then .ok defaultCap else Number.wholeOfDigits text

def ofEnvironment (environment : Environment) : Except Fault Settings := do
  return {
    dataDirectory := (Path.ofText ((environment.lookup dataVariable).getD "data".toText)).text
    logLevel := Text.upper ((environment.lookup levelVariable).getD "INFO".toText)
    cap := ← capOf (environment.lookup capVariable)
    address := (environment.lookup addressVariable).getD "http://localhost:8000".toText }

def checkLevel (logging : Logging) (level : Text) : Except Fault Unit :=
  (logging.setUp (Text.upper level)).mapError .refusedLevel

end Settings
end CollectionSearch
