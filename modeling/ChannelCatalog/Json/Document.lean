import ChannelCatalog.Json.Literal
import ChannelCatalog.Json.Numeral

/-!
# JSON documents

A document as it is written, less its white space: strings and numerals keep their spelling,
objects the order of their members and members of one name. A document is printed on one line
or with an indent of two spaces for each level.
-/

namespace ChannelCatalog
namespace Json

/-- A JSON value as written. -/
inductive Document
  | null
  | bool (value : Bool)
  | number (numeral : Numeral)
  | string (spelling : List Char)
  | array (items : List Document)
  | object (members : List (List Char × Document))

namespace Document

/-- The document of a text. -/
def text (content : String) : Document :=
  .string (escape content.toList)

/-- The document of an integer. -/
def int (n : Int) : Document :=
  .number (.ofInt n)

/-- An object whose member names are texts. -/
def record (members : List (String × Document)) : Document :=
  .object (members.map fun member => (escape member.1.toList, member.2))

/-- A literal between its quotes. -/
def quote (spelling : List Char) : List Char :=
  '"' :: spelling ++ ['"']

mutual

/-- The document on one line, without white space. -/
def compact : Document → List Char
  | .null => ['n', 'u', 'l', 'l']
  | .bool true => ['t', 'r', 'u', 'e']
  | .bool false => ['f', 'a', 'l', 's', 'e']
  | .number numeral => numeral.spelling
  | .string spelling => quote spelling
  | .array items => '[' :: compactItems items ++ [']']
  | .object members => '{' :: compactMembers members ++ ['}']

/-- Items with commas between them. -/
def compactItems : List Document → List Char
  | [] => []
  | [item] => item.compact
  | item :: rest => item.compact ++ ',' :: compactItems rest

/-- Members with commas between them. -/
def compactMembers : List (List Char × Document) → List Char
  | [] => []
  | [(name, value)] => quote name ++ ':' :: value.compact
  | (name, value) :: rest => quote name ++ ':' :: value.compact ++ ',' :: compactMembers rest

end

/-- A line break and the indent of a level. -/
def newLine (level : Nat) : List Char :=
  '\n' :: List.replicate (2 * level) ' '

mutual

/-- The document with each item and member on a line of its own; the document itself stands at
the given level. -/
def prettyAt (level : Nat) : Document → List Char
  | .null => ['n', 'u', 'l', 'l']
  | .bool true => ['t', 'r', 'u', 'e']
  | .bool false => ['f', 'a', 'l', 's', 'e']
  | .number numeral => numeral.spelling
  | .string spelling => quote spelling
  | .array [] => ['[', ']']
  | .array items => '[' :: prettyItems (level + 1) items ++ newLine level ++ [']']
  | .object [] => ['{', '}']
  | .object members => '{' :: prettyMembers (level + 1) members ++ newLine level ++ ['}']

/-- Items at a level, each on a new line. -/
def prettyItems (level : Nat) : List Document → List Char
  | [] => []
  | [item] => newLine level ++ prettyAt level item
  | item :: rest => newLine level ++ prettyAt level item ++ ',' :: prettyItems level rest

/-- Members at a level, each on a new line. -/
def prettyMembers (level : Nat) : List (List Char × Document) → List Char
  | [] => []
  | [(name, value)] => newLine level ++ quote name ++ ':' :: ' ' :: prettyAt level value
  | (name, value) :: rest =>
    newLine level ++ quote name ++ ':' :: ' ' :: prettyAt level value ++
      ',' :: prettyMembers level rest

end

/-- The document on one line. -/
def toText (document : Document) : String :=
  String.ofList document.compact

/-- The document with an indent of two spaces for each level. -/
def toPrettyText (document : Document) : String :=
  String.ofList (document.prettyAt 0)

mutual

/-- How deep arrays and objects are nested. -/
def depth : Document → Nat
  | .array items => itemsDepth items + 1
  | .object members => membersDepth members + 1
  | .null | .bool _ | .number _ | .string _ => 0

def itemsDepth : List Document → Nat
  | [] => 0
  | item :: rest => max item.depth (itemsDepth rest)

def membersDepth : List (List Char × Document) → Nat
  | [] => 0
  | (_, value) :: rest => max value.depth (membersDepth rest)

end

mutual

/-- Whether every literal stands for a text and every numeral for a number. -/
def isReadable : Document → Bool
  | .number numeral => numeral.value?.isSome
  | .string spelling => (unescape? spelling).isSome
  | .array items => itemsReadable items
  | .object members => membersReadable members
  | .null | .bool _ => true

def itemsReadable : List Document → Bool
  | [] => true
  | item :: rest => item.isReadable && itemsReadable rest

def membersReadable : List (List Char × Document) → Bool
  | [] => true
  | (name, value) :: rest =>
    (unescape? name).isSome && value.isReadable && membersReadable rest

end

/-- The deepest nesting of arrays and objects that is read. -/
def maxDepth : Nat := 127

/-- Whether a document can be read as a whole, whatever it is meant to describe. -/
def isWellFormed (document : Document) : Bool :=
  document.isReadable && document.depth ≤ maxDepth

end Document
end Json
end ChannelCatalog
