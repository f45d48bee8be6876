/-!
# String literals of JSON

A string literal as it is spelled between its quotes, and the text it stands for. Writing a text
escapes quotes, backslashes and control characters, and nothing else. A literal may name code
points by UTF-16 code units; one that names half of a surrogate pair stands for no text.
-/

namespace ChannelCatalog
namespace Json

/-- The digit of a small number in hexadecimal, in lower case. -/
def hexDigit (n : Nat) : Char :=
  Nat.digitChar n

/-- One character as it is written in a literal. -/
def escapeChar (c : Char) : List Char :=
  if c = '"' then ['\\', '"']
  else if c = '\\' then ['\\', '\\']
  else if c = '\x08' then ['\\', 'b']
  else if c = '\t' then ['\\', 't']
  else if c = '\n' then ['\\', 'n']
  else if c = '\x0c' then ['\\', 'f']
  else if c = '\r' then ['\\', 'r']
  else if c.toNat < 0x20 then
    ['\\', 'u', '0', '0', hexDigit (c.toNat / 16), hexDigit (c.toNat % 16)]
  else [c]

/-- A text as it is written in a literal. -/
def escape (text : List Char) : List Char :=
  text.flatMap escapeChar

/-- A piece of a literal: a character, or a UTF-16 code unit given by number. -/
inductive Unit16
  | char (c : Char)
  | code (value : Nat)
deriving DecidableEq, Repr

def hexValue? (c : Char) : Option Nat :=
  if '0' ≤ c ∧ c ≤ '9' then some (c.toNat - '0'.toNat)
  else if 'a' ≤ c ∧ c ≤ 'f' then some (c.toNat - 'a'.toNat + 10)
  else if 'A' ≤ c ∧ c ≤ 'F' then some (c.toNat - 'A'.toNat + 10)
  else none

/-- The code unit with the given four digits. -/
def codeUnit? (a b c d : Char) : Option Nat := do
  return (((← hexValue? a) * 16 + (← hexValue? b)) * 16 + (← hexValue? c)) * 16 + (← hexValue? d)

/-- The character that a backslash and a letter stand for. -/
def shortEscape? : Char → Option Char
  | '"' => some '"'
  | '\\' => some '\\'
  | '/' => some '/'
  | 'b' => some '\x08'
  | 'f' => some '\x0c'
  | 'n' => some '\n'
  | 'r' => some '\r'
  | 't' => some '\t'
  | _ => none

/-- Splits a literal into its pieces, if it is well-formed. -/
def units? : List Char → Option (List Unit16)
  | [] => some []
  | '\\' :: 'u' :: a :: b :: c :: d :: rest => do
    let code ← codeUnit? a b c d
    return .code code :: (← units? rest)
  | '\\' :: c :: rest => do
    let char ← shortEscape? c
    return .char char :: (← units? rest)
  | c :: rest =>
    if c = '\\' ∨ c = '"' ∨ c.toNat < 0x20 then none
    else do return .char c :: (← units? rest)

def isHighSurrogate (code : Nat) : Bool :=
  0xD800 ≤ code && code < 0xDC00

def isLowSurrogate (code : Nat) : Bool :=
  0xDC00 ≤ code && code < 0xE000

/-- The text of the pieces, if every surrogate has its other half after or before it. -/
def joinUnits? : List Unit16 → Option (List Char)
  | [] => some []
  | .char c :: rest => do return c :: (← joinUnits? rest)
  | .code high :: .code low :: rest =>
    if isHighSurrogate high && isLowSurrogate low then do
      let code := 0x10000 + (high - 0xD800) * 0x400 + (low - 0xDC00)
      return Char.ofNat code :: (← joinUnits? rest)
    else if isHighSurrogate high || isLowSurrogate high then none
    else do return Char.ofNat high :: (← joinUnits? (.code low :: rest))
  | .code code :: rest =>
    if isHighSurrogate code || isLowSurrogate code then none
    else do return Char.ofNat code :: (← joinUnits? rest)

/-- The text that a literal stands for. -/
def unescape? (spelling : List Char) : Option (List Char) := do
  joinUnits? (← units? spelling)

/-- The characters up to the quote that ends a literal, and those after it. -/
def scanLiteral : List Char → Option (List Char × List Char)
  | [] => none
  | '"' :: rest => some ([], rest)
  | '\\' :: c :: rest => do
    let (body, after) ← scanLiteral rest
    return ('\\' :: c :: body, after)
  | c :: rest => do
    let (body, after) ← scanLiteral rest
    return (c :: body, after)

end Json
end ChannelCatalog
