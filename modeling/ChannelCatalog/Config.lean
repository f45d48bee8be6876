import ChannelCatalog.Json.Decoder

/-!
# Catalog configuration

Which catalog to open and how. A configuration is read from a JSON record in which all but the
path may be left out.
-/

namespace ChannelCatalog

open Json

/-- A duration in whole seconds and nanoseconds. -/
structure Duration where
  seconds : Nat
  nanoseconds : Nat
deriving DecidableEq, Repr

/-- The whole milliseconds of a duration. -/
def Duration.toMilliseconds (d : Duration) : Nat :=
  d.seconds * 1000 + d.nanoseconds / 1000000

def Duration.ofMilliseconds (milliseconds : Nat) : Duration :=
  ⟨milliseconds / 1000, milliseconds % 1000 * 1000000⟩

/-- How to open a catalog. -/
structure Config where
  path : String
  /-- Open without write access; without meaning for a catalog in memory. -/
  readOnly : Bool
  /-- How long to wait for a locked catalog. -/
  busyTimeoutMs : UInt64
deriving DecidableEq, Repr

namespace Config

/-- The path that stands for a catalog in memory. -/
def memoryPath : String := ":memory:"

def defaultReadOnly : Bool := true

def defaultBusyTimeoutMs : UInt64 := 5000

/-- A configuration for reading the catalog at a path. -/
def ofPath (path : String) : Config :=
  ⟨path, defaultReadOnly, defaultBusyTimeoutMs⟩

/-- A configuration for a new catalog in memory. -/
def inMemory : Config :=
  { ofPath memoryPath with readOnly := false }

def withReadOnly (config : Config) (readOnly : Bool) : Config :=
  { config with readOnly }

/-- Sets the busy timeout, to the longest that can be kept if the duration is longer. -/
def withBusyTimeout (config : Config) (timeout : Duration) : Config :=
  { config with busyTimeoutMs := UInt64.ofNat (min timeout.toMilliseconds 0xFFFFFFFFFFFFFFFF) }

def isInMemory (config : Config) : Bool :=
  config.path = memoryPath

def busyTimeout (config : Config) : Duration :=
  .ofMilliseconds config.busyTimeoutMs.toNat

def toJson (config : Config) : Document :=
  .record [("path", .text config.path), ("read_only", .bool config.readOnly),
    ("busy_timeout_ms", .int config.busyTimeoutMs.toNat)]

def pathText : Decoder String :=
  textAs "path string"

def milliseconds : Decoder UInt64 :=
  fun document => (unsignedWord document).map fun n => UInt64.ofNat n.toNat

def fields : List (String × Decoder Unit) :=
  [("path", checked pathText), ("read_only", checked boolean),
    ("busy_timeout_ms", checked milliseconds)]

def ofMembers (members : List (String × Document)) : Except DecodeError Config := do
  let path ← member "path" pathText members
  let readOnly ← memberOr "read_only" defaultReadOnly boolean members
  let busyTimeoutMs ← memberOr "busy_timeout_ms" defaultBusyTimeoutMs milliseconds members
  return { path, readOnly, busyTimeoutMs }

def ofItems (items : List Document) : Except DecodeError Config := do
  let (path, items) ← nextItem (recordShape "DbConfig" 3) 0 pathText items
  let (readOnly, items) ← nextItemOr defaultReadOnly boolean items
  let (busyTimeoutMs, items) ← nextItemOr defaultBusyTimeoutMs milliseconds items
  noMoreItems items
  return { path, readOnly, busyTimeoutMs }

def ofJson : Decoder Config :=
  recordOf "DbConfig" fields ofMembers ofItems

end Config

/-- Why a text is no configuration. -/
inductive ConfigError
  | unreadable (error : ReadError)
  | emptyPath
deriving DecidableEq, Repr

/-- What is wrong with a configuration. Of a text that is not JSON no more is said. -/
def ConfigError.reason? : ConfigError → Option String
  | unreadable .malformed => none
  | unreadable (.data error) => some error.message
  | emptyPath => some "catalog path is empty"

/-- Reads a configuration from the text of a JSON document. -/
def Config.ofText (content : String) : Except ConfigError Config :=
  match read Config.ofJson content with
  | .error error => .error (.unreadable error)
  | .ok config => if config.path = "" then .error .emptyPath else .ok config

end ChannelCatalog
