import ChannelCatalog.Json.Parser
import ChannelCatalog.Text.Quoted

/-!
# Decoding documents

A decoder turns a document into a value, or says what in the document stands against it. A
record is an object with members of given names, in any order and among others, or an array of
its fields in their order. Faults are reported in the order in which they stand in the document,
missing members after the members that are there.
-/

namespace ChannelCatalog
namespace Json

/-- Why a document does not describe a value. -/
inductive DecodeError
  | missingField (name : String)
  | duplicateField (name : String)
  /-- A value of the wrong kind: what was found and what was expected. -/
  | invalidType (found expected : String)
  /-- An integer out of range. -/
  | invalidValue (value : Int) (expected : String)
  /-- An array that ends too early. -/
  | invalidLength (length : Nat) (expected : String)
  /-- An array with too many items. -/
  | trailingItems
  /-- A literal that stands for no text, or a numeral that stands for no number. -/
  | unreadable
deriving DecidableEq, Repr

def DecodeError.message : DecodeError → String
  | missingField name => "missing field `" ++ name ++ "`"
  | duplicateField name => "duplicate field `" ++ name ++ "`"
  | invalidType found expected => "invalid type: " ++ found ++ ", expected " ++ expected
  | invalidValue value expected =>
    "invalid value: integer `" ++ toString value ++ "`, expected " ++ expected
  | invalidLength length expected =>
    "invalid length " ++ toString length ++ ", expected " ++ expected
  | trailingItems => "trailing characters"
  | unreadable => "unreadable value"

/-- What a decoder does with a document. -/
abbrev Decoder (α : Type) := Document → Except DecodeError α

/-- The text of a literal. -/
def readText (spelling : List Char) : Except DecodeError String :=
  match unescape? spelling with
  | some content => .ok (String.ofList content)
  | none => .error .unreadable

/-- The number of a numeral. -/
def readNumber (numeral : Numeral) : Except DecodeError Number :=
  match numeral.value? with
  | some number => .ok number
  | none => .error .unreadable

/-- A number as a message names it. -/
def Number.description : Number → String
  | .integer value => "integer `" ++ toString value ++ "`"
  | .real negative magnitude =>
    "floating point `" ++ (if negative then "-" else "") ++ magnitude.toText ++ "`"

/-- A document as a message names it. -/
def Document.description : Document → Except DecodeError String
  | .null => .ok "null"
  | .bool value => .ok ("boolean `" ++ toString value ++ "`")
  | .number numeral => (readNumber numeral).map Number.description
  | .string spelling => (readText spelling).map fun content => "string " ++ Text.quoted content
  | .array _ => .ok "sequence"
  | .object _ => .ok "map"

/-- Refuses a document where another kind of value is expected. -/
def mismatch {α : Type} (expected : String) (document : Document) : Except DecodeError α := do
  throw (.invalidType (← document.description) expected)

/-- Decodes a text, which messages call by the given name. -/
def textAs (expected : String) : Decoder String
  | .string spelling => readText spelling
  | document => mismatch expected document

def text : Decoder String :=
  textAs "a string"

def boolean : Decoder Bool
  | .bool value => .ok value
  | document => mismatch "a boolean" document

/-- Decodes an integer from `low` to `high`, which messages call by the given name. -/
def integerAs (expected : String) (low high : Int) : Decoder Int
  | .number numeral => do
    match ← readNumber numeral with
    | .integer value =>
      if low ≤ value ∧ value ≤ high then return value
      else throw (.invalidValue value expected)
    | number => throw (.invalidType number.description expected)
  | document => mismatch expected document

def signedWord : Decoder Int :=
  integerAs "i64" (-0x8000000000000000) 0x7FFFFFFFFFFFFFFF

def unsignedWord : Decoder Int :=
  integerAs "u64" 0 0xFFFFFFFFFFFFFFFF

/-- Decodes a value for which null stands where there is none. -/
def orNull {α : Type} (decode : Decoder α) : Decoder (Option α)
  | .null => .ok none
  | document => (decode document).map some

/-- Decodes the items of an array from left to right. -/
def decodeItems {α : Type} (decode : Decoder α) : List Document → Except DecodeError (List α)
  | [] => .ok []
  | item :: rest => do
    let first ← decode item
    let others ← decodeItems decode rest
    return first :: others

def listOf {α : Type} (decode : Decoder α) : Decoder (List α)
  | .array items => decodeItems decode items
  | document => mismatch "a sequence" document

/-- Decodes the next item of an array, of which `index` items were taken. -/
def nextItem {α : Type} (shape : String) (index : Nat) (decode : Decoder α) :
    List Document → Except DecodeError (α × List Document)
  | [] => .error (.invalidLength index shape)
  | item :: rest => do return (← decode item, rest)

/-- Decodes the next item of an array, or takes the default if there is none. -/
def nextItemOr {α : Type} (default : α) (decode : Decoder α) :
    List Document → Except DecodeError (α × List Document)
  | [] => .ok (default, [])
  | item :: rest => do return (← decode item, rest)

/-- Refuses items after the last. -/
def noMoreItems : List Document → Except DecodeError Unit
  | [] => .ok ()
  | _ :: _ => .error .trailingItems

def pairOf {α β : Type} (first : Decoder α) (second : Decoder β) : Decoder (α × β)
  | .array items => do
    let shape := "a tuple of size 2"
    let (a, items) ← nextItem shape 0 first items
    let (b, items) ← nextItem shape 1 second items
    noMoreItems items
    return (a, b)
  | document => mismatch "a tuple of size 2" document

/-- The members of an object, each by the text of its name. -/
def memberTexts : List (List Char × Document) → Except DecodeError (List (String × Document))
  | [] => .ok []
  | (name, value) :: rest => do
    let name ← readText name
    let others ← memberTexts rest
    return (name, value) :: others

/-- A decoder that keeps nothing of what it decodes. -/
def checked {α : Type} (decode : Decoder α) : Decoder Unit :=
  fun document => (decode document).map fun _ => ()

/-- Checks members in their order: known ones come once and can be decoded, others are passed
over. `seen` are the known names so far. -/
def checkMembers (known : List (String × Decoder Unit)) (seen : List String) :
    List (String × Document) → Except DecodeError Unit
  | [] => .ok ()
  | (name, value) :: rest =>
    match known.lookup name with
    | none => checkMembers known seen rest
    | some check =>
      if name ∈ seen then .error (.duplicateField name)
      else do
        check value
        checkMembers known (name :: seen) rest

/-- Decodes the member of a name, which must be there. -/
def member {α : Type} (name : String) (decode : Decoder α) (members : List (String × Document)) :
    Except DecodeError α :=
  match members.lookup name with
  | some value => decode value
  | none => .error (.missingField name)

/-- Decodes the member of a name, or takes the default if it is not there. -/
def memberOr {α : Type} (name : String) (default : α) (decode : Decoder α)
    (members : List (String × Document)) : Except DecodeError α :=
  match members.lookup name with
  | some value => decode value
  | none => .ok default

/-- Decodes a record from its members or from its items. -/
def recordOf {α : Type} (name : String) (known : List (String × Decoder Unit))
    (ofMembers : List (String × Document) → Except DecodeError α)
    (ofItems : List Document → Except DecodeError α) : Decoder α
  | .object members => do
    let members ← memberTexts members
    checkMembers known [] members
    ofMembers members
  | .array items => ofItems items
  | document => mismatch ("struct " ++ name) document

/-- What messages say of an array that is too short for a record. -/
def recordShape (name : String) (fields : Nat) : String :=
  "struct " ++ name ++ " with " ++ toString fields ++
    (if fields = 1 then " element" else " elements")

/-- Why a text does not describe a value. -/
inductive ReadError
  /-- The text as a whole is not one document. -/
  | malformed
  | data (error : DecodeError)
deriving DecidableEq, Repr

/-- Decodes the document that a text is. -/
def read {α : Type} (decode : Decoder α) (content : String) : Except ReadError α :=
  match parse? content with
  | none => .error .malformed
  | some document =>
    match decode document with
    | .ok value => .ok value
    | .error error => .error (if document.isWellFormed then .data error else .malformed)

end Json
end ChannelCatalog
