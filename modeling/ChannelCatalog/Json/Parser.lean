import ChannelCatalog.Json.Document

/-!
# Reading JSON

A text is one document with white space around its tokens. Each reader takes the characters
that are left and returns what it read and the characters after it. Readers of nested parts
count down a number that the length of the text bounds.
-/

namespace ChannelCatalog
namespace Json

/-- The white space between tokens. -/
def isSpace (c : Char) : Bool :=
  c = ' ' || c = '\n' || c = '\t' || c = '\r'

def skipSpace (text : List Char) : List Char :=
  text.dropWhile isSpace

/-- Reads the digits that come next, of which there must be one. -/
def readDigits (text : List Char) : Option (List Char × List Char) :=
  match text.takeWhile Char.isDigit with
  | [] => none
  | digits => some (digits, text.dropWhile Char.isDigit)

/-- Reads the digits before the point: a zero alone, or digits that begin with another. -/
def readWhole (text : List Char) : Option (List Char × List Char) := do
  let (digits, rest) ← readDigits text
  if digits.head? = some '0' ∧ digits.length ≠ 1 then none else return (digits, rest)

/-- Reads a point and the digits after it, if a point comes next. -/
def readFraction : List Char → Option (List Char × List Char)
  | '.' :: rest => readDigits rest
  | text => some ([], text)

/-- Reads an exponent without its letter. -/
def readSignedDigits : List Char → Option (List Char × List Char)
  | '+' :: rest => (readDigits rest).map fun (digits, after) => ('+' :: digits, after)
  | '-' :: rest => (readDigits rest).map fun (digits, after) => ('-' :: digits, after)
  | text => readDigits text

/-- Reads an exponent, if its letter comes next. -/
def readExponent : List Char → Option (List Char × List Char)
  | 'e' :: rest => readSignedDigits rest
  | 'E' :: rest => readSignedDigits rest
  | text => some ([], text)

/-- Reads a numeral after its sign. -/
def readUnsigned (negative : Bool) (text : List Char) : Option (Numeral × List Char) := do
  let (whole, text) ← readWhole text
  let (fraction, text) ← readFraction text
  let (exponent, text) ← readExponent text
  return (⟨negative, whole, fraction, exponent⟩, text)

def readNumeral : List Char → Option (Numeral × List Char)
  | '-' :: rest => readUnsigned true rest
  | text => readUnsigned false text

/-- Reads a literal after its opening quote. -/
def readLiteral (text : List Char) : Option (List Char × List Char) := do
  let (spelling, rest) ← scanLiteral text
  if (units? spelling).isSome then return (spelling, rest) else none

mutual

/-- Reads a document that begins with the next character. -/
def readValue : Nat → List Char → Option (Document × List Char)
  | 0, _ => none
  | fuel + 1, text =>
    match text with
    | 'n' :: 'u' :: 'l' :: 'l' :: rest => some (.null, rest)
    | 't' :: 'r' :: 'u' :: 'e' :: rest => some (.bool true, rest)
    | 'f' :: 'a' :: 'l' :: 's' :: 'e' :: rest => some (.bool false, rest)
    | '"' :: rest => do
      let (spelling, rest) ← readLiteral rest
      return (.string spelling, rest)
    | '[' :: rest =>
      match skipSpace rest with
      | ']' :: after => some (.array [], after)
      | inner => do
        let (items, rest) ← readItems fuel inner
        return (.array items, rest)
    | '{' :: rest =>
      match skipSpace rest with
      | '}' :: after => some (.object [], after)
      | inner => do
        let (members, rest) ← readMembers fuel inner
        return (.object members, rest)
    | _ => do
      let (numeral, rest) ← readNumeral text
      return (.number numeral, rest)

/-- Reads items and the bracket after them; the first begins with the next character. -/
def readItems : Nat → List Char → Option (List Document × List Char)
  | 0, _ => none
  | fuel + 1, text => do
    let (item, rest) ← readValue fuel text
    match skipSpace rest with
    | ',' :: after => do
      let (items, rest) ← readItems fuel (skipSpace after)
      return (item :: items, rest)
    | ']' :: after => return ([item], after)
    | _ => none

/-- Reads members and the brace after them; the first begins with the next character. -/
def readMembers : Nat → List Char → Option (List (List Char × Document) × List Char)
  | 0, _ => none
  | fuel + 1, text =>
    match text with
    | '"' :: rest => do
      let (name, rest) ← readLiteral rest
      match skipSpace rest with
      | ':' :: after => do
        let (value, rest) ← readValue fuel (skipSpace after)
        match skipSpace rest with
        | ',' :: after => do
          let (members, rest) ← readMembers fuel (skipSpace after)
          return ((name, value) :: members, rest)
        | '}' :: after => return ([(name, value)], after)
        | _ => none
      | _ => none
    | _ => none

end

/-- The document that a text is, with white space around it. -/
def parse? (text : String) : Option Document := do
  let characters := text.toList
  let (document, rest) ← readValue (2 * characters.length + 2) (skipSpace characters)
  if (skipSpace rest).isEmpty then return document else none

end Json
end ChannelCatalog
