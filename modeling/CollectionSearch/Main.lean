import CollectionSearch.Service.Listing

/-!
The command line: prints the listing of one search over the snapshot in a directory.
-/
namespace CollectionSearch.CommandLine

def usage : String := "usage: search [--data DATA] [--log-level LEVEL] [--] query"

def contentOf (path : String) : IO (Option ByteArray) := do
  try
    return some (← IO.FS.readBinFile path)
  catch
    | .noFileOrDirectory .. => return none
    | failure => throw failure

/-- The files of a directory. Reading a directory as a file fails, but not because it is not there. -/
def exportOf (directory : String) : IO (Option Import.Export) := do
  try
    let _ ← IO.FS.readBinFile directory
    return none
  catch
    | .noFileOrDirectory .. => return none
    | _ =>
      let read (name : Text) : IO (Except Fault (Option ByteArray)) := do
        return .ok (← contentOf (directory ++ "/" ++ name.shown))
      return some ⟨← read Import.mediaFile, ← read Import.notesFile, ← read Import.placesFile⟩

def environment : IO Environment := do
  let values ← Settings.variableNames.mapM (fun name => do
    return (← IO.getEnv (name.shown)).map (fun value => (name, value.toText)))
  return values.filterMap id

def collections (directory : Text) : IO (Except Fault Import.Collections) := do
  let path := (Path.ofText directory).text
  match ← exportOf (path.shown) with
  | some files => return Import.ofExport Host.usualNesting files
  | none => return .error (.missingDirectory path)

def refuse (fault : Fault) : IO UInt32 := do
  IO.eprintln (fault.message.shown)
  return 1

def run (arguments : List String) : IO UInt32 := do
  match Listing.Arguments.read? none (arguments.map String.toText) with
  | none =>
    IO.eprintln usage
    return 2
  | some arguments =>
    match Listing.plan (← environment) .standard arguments with
    | .error fault => refuse fault
    | .ok plan =>
      match ← collections plan.directory with
      | .error fault => refuse fault
      | .ok collections =>
        for warning in collections.warnings do
          IO.eprintln (warning.message.shown)
        match Listing.print plan arguments.search collections.snapshot with
        | .error fault => refuse fault
        | .ok listing =>
          IO.print (listing.shown)
          return 0

end CollectionSearch.CommandLine

def main (arguments : List String) : IO UInt32 := CollectionSearch.CommandLine.run arguments
