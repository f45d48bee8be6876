import ChannelCatalog.Number.Binary64

/-!
# Numerals of JSON

A numeral as it is spelled, and the number it stands for: an integer if it has neither fraction
nor exponent and fits in 64 bits, with or without a sign, and otherwise a binary floating-point
number. Of the digits only as many as fit in 64 bits are kept; minus zero is no integer.
-/

namespace ChannelCatalog
namespace Json

open Number (Binary64)

/-- A numeral in its parts. The exponent is kept with its sign. -/
structure Numeral where
  negative : Bool
  whole : List Char
  fraction : List Char
  exponent : List Char
deriving DecidableEq, Repr

/-- What a numeral stands for. -/
inductive Number
  | integer (value : Int)
  | real (negative : Bool) (magnitude : Binary64)
deriving DecidableEq, Repr

def digitValue (c : Char) : Nat :=
  c.toNat - '0'.toNat

/-- The number that a list of digits spells. -/
def digitsValue (digits : List Char) : Nat :=
  digits.foldl (fun value c => value * 10 + digitValue c) 0

def wordLimit : Nat := 0x10000000000000000

/-- Reads digits as long as the value fits in a word; returns it and the digits left. -/
def readWord (value : Nat) : List Char → Nat × List Char
  | [] => (value, [])
  | c :: rest =>
    let next := value * 10 + digitValue c
    if next < wordLimit then readWord next rest else (value, c :: rest)

namespace Numeral

/-- The numeral of an integer. -/
def ofInt (n : Int) : Numeral :=
  ⟨n < 0, Nat.toDigits 10 n.natAbs, [], []⟩

/-- The characters of a numeral. -/
def spelling (n : Numeral) : List Char :=
  (if n.negative then ['-'] else []) ++ n.whole ++
    (if n.fraction.isEmpty then [] else '.' :: n.fraction) ++
    (if n.exponent.isEmpty then [] else 'e' :: n.exponent)

/-- The value of an exponent with its sign. -/
def exponentValue : List Char → Int
  | '-' :: digits => -(digitsValue digits : Int)
  | '+' :: digits => digitsValue digits
  | digits => digitsValue digits

/-- The floating-point value of a numeral, sign apart. Digits of the whole part that do not fit
in a word count as zeros, those of the fraction are dropped. -/
def magnitude? (n : Numeral) : Option Binary64 :=
  let (whole, dropped) := readWord 0 n.whole
  let (kept, unused) := readWord whole n.fraction
  let places := n.fraction.length - unused.length
  Binary64.ofScientific? kept (dropped.length - places + exponentValue n.exponent)

/-- The number that a numeral stands for, unless it is too large for any. -/
def value? (n : Numeral) : Option Number :=
  let whole := digitsValue n.whole
  let plain := n.fraction.isEmpty && n.exponent.isEmpty
  if plain ∧ n.negative = false ∧ whole < wordLimit then some (.integer whole)
  else if plain ∧ n.negative ∧ 0 < whole ∧ whole ≤ 0x8000000000000000 then some (.integer (-whole))
  else n.magnitude?.map (.real n.negative)

end Numeral
end Json
end ChannelCatalog
