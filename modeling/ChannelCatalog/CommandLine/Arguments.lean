import ChannelCatalog.Request
import ChannelCatalog.Text.Bytes
import ChannelCatalog.Text.Quoted

/-!
# Arguments of the command line

Arguments are read from left to right. A long option takes its value after an equals sign or as
the next argument, a short one also without a space, and short switches may be bundled. After
`--` every argument is positional. What has been read of an option or of positional arguments
is checked when the next option is recognised, or at the end; an unknown option, or a value
given to a switch, is reported before what is still unchecked.

A positional argument is a criterion: `KEY=GLOB`, split at the first equals sign, or a key alone.
Blanks around the key are dropped; what follows the sign is kept as it is.
-/

namespace ChannelCatalog
namespace CommandLine

/-- A key with a glob for its value, or with none to ask for any value. -/
structure Criterion where
  key : String
  value : Option String
deriving DecidableEq, Repr

/-- The message for an argument without a key. -/
def missingKeyMessage (argument : String) : String :=
  "missing property name in " ++ Text.quoted argument

/-- Reads a positional argument; there must be a key. -/
def Criterion.parse? (argument : String) : Option Criterion :=
  let (before, after) := Text.splitFirst '=' argument.toList
  let key := Text.trimBlanks before
  if key.isEmpty then none else some ⟨String.ofList key, after.map String.ofList⟩

/-- What the command line asks for. -/
structure Arguments where
  /-- The catalog to open. -/
  db : Option String := none
  /-- A configuration file, which goes before the catalog given. -/
  config : Option String := none
  readWrite : Bool := false
  json : Bool := false
  verbose : Bool := false
  /-- Globs for the channel name. -/
  names : List String := []
  /-- Tag names or globs. -/
  tags : List String := []
  criteria : List Criterion := []
deriving DecidableEq, Repr

namespace Arguments

/-- The request that the arguments describe: names and tags first, then the criteria in order. -/
def request (arguments : Arguments) : Request :=
  let named :=
    if arguments.names.isEmpty then Request.empty
    else Request.empty.extend nameKey arguments.names
  let tagged :=
    if arguments.tags.isEmpty then named else named.extend tagKey arguments.tags
  arguments.criteria.foldl
    (fun request criterion => request.extend criterion.key criterion.value.toList) tagged

end Arguments

/-- Why arguments are refused, or not acted on. -/
inductive UsageError
  | unknownArgument
  | invalidValue
  | tooManyValues
  | argumentConflict
  | valueValidation
  | displayHelp
deriving DecidableEq, Repr

def UsageError.kind : UsageError → String
  | unknownArgument => "UnknownArgument"
  | invalidValue => "InvalidValue"
  | tooManyValues => "TooManyValues"
  | argumentConflict => "ArgumentConflict"
  | valueValidation => "ValueValidation"
  | displayHelp => "DisplayHelp"

/-- An option without a value. -/
inductive Switch
  | readWrite
  | json
  | verbose
  | help
deriving DecidableEq, Repr

/-- An option with a value. -/
inductive Setting
  | db
  | config
  | name
  | tag
deriving DecidableEq, Repr

/-- An option of either sort. -/
inductive Named
  | switch (switch : Switch)
  | setting (setting : Setting)
deriving DecidableEq, Repr

/-- The options by their long names. -/
def longNames : List (List Char × Named) :=
  [("db".toList, .setting .db), ("config".toList, .setting .config),
    ("name".toList, .setting .name), ("tag".toList, .setting .tag),
    ("read-write".toList, .switch .readWrite), ("json".toList, .switch .json),
    ("verbose".toList, .switch .verbose), ("help".toList, .switch .help)]

/-- The options by their short names. -/
def shortNames : List (Char × Named) :=
  [('c', .setting .config), ('n', .setting .name), ('t', .setting .tag),
    ('v', .switch .verbose), ('h', .switch .help)]

/-- What was read and is still to be checked. -/
inductive Pending
  | nothing
  /-- A setting whose value may be the next argument. -/
  | awaiting (setting : Setting)
  | value (setting : Setting) (value : String)
  | positional (arguments : List String)
deriving DecidableEq, Repr

/-- The state of reading arguments. -/
structure Reader where
  arguments : Arguments := {}
  pending : Pending := .nothing
  /-- Whether all further arguments are positional. -/
  positionalOnly : Bool := false
deriving DecidableEq, Repr

namespace Arguments

/-- Gives a setting its value. A catalog and a configuration are given once, and not empty. -/
def withSetting (arguments : Arguments) (setting : Setting) (value : String) :
    Except UsageError Arguments :=
  match setting with
  | .db =>
    if arguments.db.isSome then .error .argumentConflict
    else if value = "" then .error .invalidValue
    else .ok { arguments with db := some value }
  | .config =>
    if arguments.config.isSome then .error .argumentConflict
    else if value = "" then .error .invalidValue
    else .ok { arguments with config := some value }
  | .name => .ok { arguments with names := arguments.names ++ [value] }
  | .tag => .ok { arguments with tags := arguments.tags ++ [value] }

/-- Turns a switch on, which is done once. -/
def withSwitch (arguments : Arguments) : Switch → Except UsageError Arguments
  | .readWrite =>
    if arguments.readWrite then .error .argumentConflict
    else .ok { arguments with readWrite := true }
  | .json =>
    if arguments.json then .error .argumentConflict else .ok { arguments with json := true }
  | .verbose =>
    if arguments.verbose then .error .argumentConflict
    else .ok { arguments with verbose := true }
  | .help => .error .displayHelp

/-- Adds positional arguments, each of which must be a criterion. -/
def withPositional (arguments : Arguments) : List String → Except UsageError Arguments
  | [] => .ok arguments
  | argument :: rest =>
    match Criterion.parse? argument with
    | none => .error .valueValidation
    | some criterion =>
      { arguments with criteria := arguments.criteria ++ [criterion] }.withPositional rest

end Arguments

namespace Reader

/-- Checks what is pending. -/
def settle (reader : Reader) : Except UsageError Reader := do
  let arguments ← match reader.pending with
    | .nothing => pure reader.arguments
    | .awaiting _ => throw .invalidValue
    | .value setting value => reader.arguments.withSetting setting value
    | .positional arguments => reader.arguments.withPositional arguments
  return { reader with arguments, pending := .nothing }

def turnOn (reader : Reader) (switch : Switch) : Except UsageError Reader := do
  let reader ← reader.settle
  return { reader with arguments := ← reader.arguments.withSwitch switch }

/-- Gives a setting a value that stands in the same argument, or waits for the next. -/
def set (reader : Reader) (setting : Setting) : Option String → Except UsageError Reader
  | none => do
    let reader ← reader.settle
    return { reader with pending := .awaiting setting }
  | some value => do
    let reader ← reader.settle
    return { reader with arguments := ← reader.arguments.withSetting setting value }

/-- Reads a positional argument. -/
def positional (reader : Reader) (argument : String) : Except UsageError Reader :=
  match reader.pending with
  | .positional arguments => .ok { reader with pending := .positional (arguments ++ [argument]) }
  | _ => do
    let reader ← reader.settle
    return { reader with pending := .positional [argument] }

/-- Reads a long option, whose dashes are dropped. -/
def long (reader : Reader) (text : List Char) : Except UsageError Reader :=
  let (name, value) := Text.splitFirst '=' text
  match longNames.lookup name with
  | none => .error .unknownArgument
  | some (.switch switch) => if value.isSome then .error .tooManyValues else reader.turnOn switch
  | some (.setting setting) => reader.set setting (value.map String.ofList)

/-- The value that follows a short option in the same argument, if any does. -/
def attached : List Char → Option String
  | [] => none
  | '=' :: rest => some (String.ofList rest)
  | rest => some (String.ofList rest)

/-- Reads a bundle of short options, whose dash is dropped. -/
def short (reader : Reader) : List Char → Except UsageError Reader
  | [] => .ok reader
  | c :: rest =>
    match shortNames.lookup c with
    | none => .error .unknownArgument
    | some (.switch switch) => do (← reader.turnOn switch).short rest
    | some (.setting setting) => reader.set setting (attached rest)

/-- Reads an argument that is no option: the value awaited, or a positional argument. -/
def plain (reader : Reader) (argument : String) : Except UsageError Reader :=
  match reader.pending with
  | .awaiting setting => .ok { reader with pending := .value setting argument }
  | _ => reader.positional argument

/-- Reads one argument. -/
def step (reader : Reader) (argument : String) : Except UsageError Reader :=
  if reader.positionalOnly then reader.positional argument
  else match argument.toList with
    | ['-', '-'] => .ok { reader with positionalOnly := true }
    | '-' :: '-' :: text => reader.long text
    | ['-'] => reader.plain argument
    | '-' :: text => reader.short text
    | _ => reader.plain argument

/-- Reads arguments from left to right. -/
def steps (reader : Reader) : List String → Except UsageError Reader
  | [] => reader.settle
  | argument :: rest => do (← reader.step argument).steps rest

end Reader

namespace Arguments

/-- Takes the catalog from the environment unless one was given. -/
def withEnvironment (arguments : Arguments) : Option String → Except UsageError Arguments
  | none => .ok arguments
  | some path =>
    if arguments.db.isSome then .ok arguments else arguments.withSetting .db path

/-- Reads arguments; `environment` is the catalog that the environment names. -/
def parse (arguments : List String) (environment : Option String) :
    Except UsageError Arguments := do
  let reader ← ({} : Reader).steps arguments
  reader.arguments.withEnvironment environment

end Arguments
end CommandLine
end ChannelCatalog
