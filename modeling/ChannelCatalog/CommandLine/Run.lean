import ChannelCatalog.CommandLine.Arguments
import ChannelCatalog.CommandLine.Output
import ChannelCatalog.Connection

/-!
# Running a search from the command line

The arguments name a catalog and describe a request; the result is written and counted. A
search that finds nothing writes nothing. A failure is told by a chain of messages, from what
was being done to its cause.
-/

namespace ChannelCatalog
namespace CommandLine

/-- Why a configuration file is of no use. -/
inductive LoadError
  | file (failure : ReadFailure)
  | config (error : ConfigError)
deriving DecidableEq, Repr

def LoadError.chain : LoadError → List String
  | file failure => ["IO error: " ++ failure.message, failure.message]
  | config error =>
    ["invalid configuration" ++ (error.reason?.map fun reason => ": " ++ reason).getD ""]

/-- Why a run fails. -/
inductive RunError
  | noCatalog
  | load (path : String) (error : LoadError)
  | openCatalog (path : String) (error : OpenError)
  | search (error : SearchError Store.StoreError)
  | writeRows
  | writeJson (error : WriteError)
deriving DecidableEq, Repr

/-- The messages for a failure, each followed by its cause. -/
def RunError.chain : RunError → List String
  | noCatalog => ["no catalog given: pass --db PATH, --config FILE or set CF_DB"]
  | load path error => ("Failed to load config " ++ path) :: error.chain
  | openCatalog path error =>
    ("Failed to open catalog " ++ path) :: ("database error: " ++ error.message) ::
      error.message :: error.class?.toList
  | search error =>
    "Channel search failed" :: error.stage.failure error.cause.message ::
      error.cause.message :: error.cause.class?.toList
  | writeRows => rowsChain
  | writeJson error => error.jsonChain

namespace Arguments

/-- Reads a configuration file. -/
def loadConfig (files : Files) (path : String) : Except RunError Config :=
  match files.readText path with
  | .error failure => .error (.load path (.file failure))
  | .ok content =>
    match Config.ofText content with
    | .error error => .error (.load path (.config error))
    | .ok config => .ok config

/-- The configuration of the catalog to open. -/
def catalogConfig (arguments : Arguments) (files : Files) : Except RunError Config := do
  let config ← match arguments.config, arguments.db with
    | some path, _ => loadConfig files path
    | none, some path => pure (Config.ofPath path)
    | none, none => throw .noCatalog
  return if arguments.readWrite then config.withReadOnly false else config

/-- Writes what was found: the number of rows and the text. -/
def write (arguments : Arguments) (sink : Sink) (outcome : Outcome) :
    Except RunError (Nat × String) :=
  let count := outcome.toRows.length
  if outcome.isEmpty then .ok (0, "")
  else if arguments.json then
    match writeJson sink outcome with
    | .ok output => .ok (count, output)
    | .error error => .error (.writeJson error)
  else
    match writeRows sink outcome.toRows with
    | .ok output => .ok (count, output)
    | .error _ => .error .writeRows

/-- Searches on an open connection. -/
def searchAndWrite (arguments : Arguments) (connection : Connection) (sink : Sink) :
    Except RunError (Nat × String) :=
  match connection.search (Criteria.ofRequest arguments.request) with
  | .error error => .error (.search error)
  | .ok outcome => arguments.write sink outcome

/-- Opens the catalog, searches it and writes the result: the number of rows and the text, and
the files afterwards. -/
def run (arguments : Arguments) (files : Files) (sink : Sink) :
    Except RunError (Nat × String) × Files :=
  match arguments.catalogConfig files with
  | .error error => (.error error, files)
  | .ok config =>
    match Connection.ofConfig files config with
    | (.error error, files) => (.error (.openCatalog config.path error), files)
    | (.ok connection, files) => (arguments.searchAndWrite connection sink, files)

end Arguments
end CommandLine
end ChannelCatalog
