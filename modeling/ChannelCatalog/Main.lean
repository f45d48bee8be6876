import ChannelCatalog.CommandLine.Run
import ChannelCatalog.Store.Dump

/-!
# The search program

Searches a catalog for the channels that the command line describes. Catalogs are files with
the tables of a store as JSON. The exit code is zero after a search, whatever it found.
-/

namespace ChannelCatalog
namespace CommandLine

/-- The path of a place, if its names are texts. -/
def placePath? (place : Place) : Option String := do
  let names ← place.mapM Text.decode?
  return "/" ++ String.intercalate "/" names

/-- What is at a path, as far as a search is concerned. -/
def lookUp (path : String) : IO (Option File) := do
  try
    let content ← IO.FS.readFile path
    return some (match Store.Tables.ofText? content with
      | some tables => .catalog tables
      | none => .text content)
  catch error =>
    match error with
    | .inappropriateType _ 21 _ => return some .directory
    | .userError _ => return some .binary
    | _ => return none

/-- Adds what is at the places that a path leads through. -/
def addPath (files : Files) (path : List UInt8) : IO Files :=
  (files.visited path).foldlM (fun files place => do
    match placePath? place with
    | none => return files
    | some path =>
      match ← lookUp path with
      | some file => return files.put place file
      | none => return files) files

/-- The files that a run looks at. -/
def gather (arguments : Arguments) : IO Files := do
  let here := Text.splitAll FileName.slash (Text.encode (← IO.currentDir).toString)
  let start : Files := ⟨here.filter (· ≠ []), []⟩
  let files ← match arguments.config with
    | some path => addPath start (Text.encode path)
    | none => pure start
  match arguments.catalogConfig files with
  | .error _ => return files
  | .ok config =>
    match Location.ofText config.path with
    | .error _ => return files
    | .ok location => (location.path :: location.model?.toList).foldlM addPath files

/-- Writes the files that the run changed. -/
def keep (before after : Files) : IO Unit := do
  for (place, file) in after.known do
    if before.find place ≠ some file then
      match placePath? place, file with
      | some path, .catalog tables => IO.FS.writeFile path tables.toText
      | some path, .text content => IO.FS.writeFile path content
      | _, _ => return

/-- Writes a chain of messages to the error output. -/
def complain : List String → IO Unit
  | [] => return
  | first :: causes => do
    IO.eprintln ("Error: " ++ first)
    for cause in causes do
      IO.eprintln ("Caused by: " ++ cause)

/-- Runs a search and returns the exit code. -/
def program (arguments : List String) : IO UInt32 := do
  match Arguments.parse arguments (← IO.getEnv "CF_DB") with
  | .error error =>
    IO.eprintln ("usage error: " ++ error.kind)
    return if error = .displayHelp then 0 else 2
  | .ok arguments =>
    let files ← gather arguments
    let (result, after) := arguments.run files none
    keep files after
    match result with
    | .ok (_, output) =>
      IO.print output
      return 0
    | .error error =>
      complain error.chain
      return 1

end CommandLine
end ChannelCatalog

def main (arguments : List String) : IO UInt32 :=
  ChannelCatalog.CommandLine.program arguments
