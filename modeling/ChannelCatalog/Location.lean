import ChannelCatalog.Text.Bytes
import ChannelCatalog.Text.Lowercase

/-!
# Locations of catalogs

A catalog is named by a path, or by a text that begins with `file:` and may add options to the
path. In such a text bytes may be written as `%` and two hexadecimal digits, and what follows
`#` is left out. The options restrict the access to the catalog, or choose how it is kept.
-/

namespace ChannelCatalog

/-- What is allowed with a catalog. -/
inductive Access
  | read
  | write
  /-- To write, and to create the catalog if it is missing. -/
  | create
  /-- Anything, with a catalog of one's own that is in no file. -/
  | memory
deriving DecidableEq, Repr

namespace Access

/-- The accesses by their names in a location. -/
def names : List (String × Access) :=
  [("ro", read), ("rw", write), ("rwc", create), ("memory", memory)]

def rank : Access → Nat
  | read => 0
  | write => 1
  | create => 2
  | memory => 3

/-- Whether one access may be exchanged for another. A catalog of one's own is always allowed. -/
def allows (access other : Access) : Bool :=
  other = memory || other.rank ≤ access.rank

end Access

/-- What options choose between. -/
inductive Choice
  | access
  | cache
deriving DecidableEq, Repr

def Choice.name : Choice → String
  | access => "access"
  | cache => "cache"

/-- Why a text names no catalog. -/
inductive LocationError
  | nulByte (position : Nat)
  | unknownAuthority (authority : String)
  | unknownMode (choice : Choice) (mode : String)
  | forbiddenAccess (mode : String)
  | unknownDriver (name : String)
deriving DecidableEq, Repr

def LocationError.message : LocationError → String
  | nulByte position => "nul byte found in provided data at position: " ++ toString position
  | unknownAuthority authority => "invalid uri authority: " ++ authority
  | unknownMode choice mode => "no such " ++ choice.name ++ " mode: " ++ mode
  | forbiddenAccess mode => "access mode not allowed: " ++ mode
  | unknownDriver name => "no such vfs: " ++ name

/-- Where a catalog is, and the options for it in their order. -/
structure Location where
  path : List UInt8
  options : List (String × String)
deriving DecidableEq, Repr

namespace Location

/-- The value of a hexadecimal digit. -/
def hexValue? (byte : UInt8) : Option Nat :=
  let n := byte.toNat
  if 0x30 ≤ n ∧ n ≤ 0x39 then some (n - 0x30)
  else if 0x41 ≤ n ∧ n ≤ 0x46 then some (n - 0x37)
  else if 0x61 ≤ n ∧ n ≤ 0x66 then some (n - 0x57)
  else none

/-- The byte that two hexadecimal digits write. -/
def hexByte? (high low : UInt8) : Option UInt8 := do
  return UInt8.ofNat ((← hexValue? high) * 16 + (← hexValue? low))

/-- Reads bytes that are written in hexadecimal. A zero byte written so ends what is read. -/
def percentDecode : List UInt8 → List UInt8
  | percent :: high :: low :: rest =>
    match if percent = '%'.toUInt8 then hexByte? high low else none with
    | some byte => if byte = 0 then [] else byte :: percentDecode rest
    | none => percent :: percentDecode (high :: low :: rest)
  | byte :: rest => byte :: percentDecode rest
  | [] => []

/-- Reads an option, whose value follows the first equals sign. -/
def readOption (written : List UInt8) : String × String :=
  let (name, value) := Text.splitFirst '='.toUInt8 written
  (Text.decodeBytes (percentDecode name), Text.decodeBytes (percentDecode (value.getD [])))

/-- Reads the options, those without a name left out. -/
def readOptions (written : List UInt8) : List (String × String) :=
  ((Text.splitAll '&'.toUInt8 written).map readOption).filter fun option => option.1 ≠ ""

/-- Leaves out the authority, which can only be this machine. -/
def dropAuthority (written : List UInt8) : Except LocationError (List UInt8) :=
  if (Text.encode "//").isPrefixOf written then
    let (authority, path) := (written.drop 2).span fun byte => byte ≠ '/'.toUInt8
    if authority = [] ∨ authority = Text.encode "localhost" then .ok path
    else .error (.unknownAuthority (Text.decodeBytes authority))
  else .ok written

/-- What a text begins with that may have options. -/
def scheme : List UInt8 := Text.encode "file:"

/-- Reads what follows the scheme. -/
def ofSchemeRest (written : List UInt8) : Except LocationError Location := do
  let written ← dropAuthority written
  let (path, options) :=
    Text.splitFirst '?'.toUInt8 (written.takeWhile fun byte => byte ≠ '#'.toUInt8)
  return ⟨percentDecode path, (options.map readOptions).getD []⟩

/-- Reads the text that names a catalog. -/
def ofText (text : String) : Except LocationError Location :=
  let written := Text.encode text
  match written.idxOf? 0 with
  | some position => .error (.nulByte position)
  | none =>
    if scheme.isPrefixOf written then ofSchemeRest (written.drop scheme.length)
    else .ok ⟨written, []⟩

/-- The number that digits write up to the first byte that is none. -/
def leadingNumber (base : Nat) (written : List UInt8) : Nat :=
  ((written.map hexValue?).takeWhile fun digit => digit.any (· < base)).foldl
    (fun number digit => number * base + digit.getD 0) 0

/-- The number that bytes begin with, in decimal or after `0x` in hexadecimal. -/
def number (written : List UInt8) : Nat :=
  if (Text.encode "0x").isPrefixOf written ∨ (Text.encode "0X").isPrefixOf written then
    leadingNumber 16 (written.drop 2)
  else leadingNumber 10 written

/-- Whether the value of an option says yes. Of a number that is not too large the last byte is
looked at. -/
def saysYes (value : String) : Bool :=
  let written := Text.encode value
  if ((written.head?.bind hexValue?).any (· < 10)) then
    number written < 0x80000000 && number written % 256 ≠ 0
  else ["on", "yes", "true"].contains (Text.asciiLower value)

/-- Whether a catalog is taken as one that nobody changes. -/
def isImmutable (location : Location) : Bool :=
  ((location.options.lookup "immutable").map saysYes).getD false

/-- The file that gives a new catalog its permissions. -/
def model? (location : Location) : Option (List UInt8) :=
  (location.options.lookup "modeof").map Text.encode

end Location

/-- How a catalog is kept. -/
inductive Keeping
  | inFile
  | inMemory
deriving DecidableEq, Repr

/-- The drivers by name, and how they keep a catalog. -/
def drivers : List (String × Keeping) :=
  [("unix", .inFile), ("unix-none", .inFile), ("unix-dotfile", .inFile), ("unix-excl", .inFile),
    ("memdb", .inMemory)]

/-- What the options of a location amount to. -/
structure Terms where
  access : Access
  driver : String := "unix"
deriving DecidableEq, Repr

namespace Terms

/-- Applies an option; one with another name has no bearing on these terms. -/
def apply (terms : Terms) (option : String × String) : Except LocationError Terms :=
  let (name, value) := option
  if name = "vfs" then .ok { terms with driver := value }
  else if name = "cache" then
    if value = "shared" ∨ value = "private" then .ok terms
    else .error (.unknownMode .cache value)
  else if name = "mode" then
    match Access.names.lookup value with
    | none => .error (.unknownMode .access value)
    | some access =>
      if terms.access.allows access then .ok { terms with access }
      else .error (.forbiddenAccess value)
  else .ok terms

/-- The access to a catalog and how it is kept, if the given access is granted. -/
def settle (access : Access) (location : Location) : Except LocationError (Access × Keeping) := do
  let terms ← location.options.foldlM apply { access }
  match drivers.lookup terms.driver with
  | none => throw (.unknownDriver terms.driver)
  | some keeping => return (terms.access, keeping)

end Terms
end ChannelCatalog
