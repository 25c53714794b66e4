import CollectionSearch.Import.Snapshot
import CollectionSearch.Service.Engine

/-!
Listings: the ranking of a search as numbered lines of text.
-/
namespace CollectionSearch.Listing

def nameOf : Entity → Text
  | .media record => record.title
  | .note record => record.title
  | .place record => record.name
  | .unsupported _ => []

def line (number : Nat) (ranked : Ranked) : Text :=
  Text.padStart 3 (Text.ofNat number) ++ ". [".toText ++ Text.padStart 3 (Text.ofNat ranked.score) ++
    "] ".toText ++ Text.padEnd 5 ranked.kind ++ .char ' ' :: nameOf ranked.entity ++ [.char '\n']

def ofRanking (entries : List Ranked) : Text :=
  ((entries.zipIdx 1).map (fun (ranked, number) => line number ranked)).flatten

structure Arguments where
  search : Text
  data : Option Text
  logLevel : Option Text
  deriving DecidableEq, Repr

namespace Arguments

def isOption : Text → Bool
  | .char '-' :: _ :: _ => true
  | _ => false

def read? (search : Option Text) : List Text → Option Arguments
  | [] => search.map (⟨·, none, none⟩)
  | [argument] => if isOption argument || search.isSome then none else some ⟨argument, none, none⟩
  | argument :: value :: rest =>
    if argument = "--data".toText then
      (read? search rest).map (fun others => { others with data := others.data.or (some value) })
    else if argument = "--log-level".toText then
      (read? search rest).map (fun others => { others with logLevel := others.logLevel.or (some value) })
    else if argument = "--".toText then
      if search.isNone && rest.isEmpty then some ⟨value, none, none⟩ else none
    else if isOption argument || search.isSome then none
    else read? (some argument) (value :: rest)

end Arguments

structure Plan where
  directory : Text
  cap : Int
  deriving DecidableEq, Repr

def plan (environment : Environment) (logging : Logging) (arguments : Arguments) : Except Fault Plan := do
  let settings ← Settings.ofEnvironment environment
  Settings.checkLevel logging (arguments.logLevel.getD settings.logLevel)
  return ⟨arguments.data.getD settings.dataDirectory, settings.cap⟩

def print (plan : Plan) (search : Text) (snapshot : Snapshot) : Except Fault Text :=
  ofRanking <$> Engine.search ⟨snapshot, some plan.cap⟩ search

def run (environment : Environment) (host : Host) (arguments : Arguments) : Except Fault Text := do
  let plan ← plan environment host.logging arguments
  let collections ← Import.ofDirectory host plan.directory
  print plan arguments.search collections.snapshot

end CollectionSearch.Listing
