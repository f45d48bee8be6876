/-!
# Binary floating-point numbers

Non-negative numbers of the 64-bit binary format, kept as mantissa and power of two. A quotient
is rounded to the nearest of them, to an even mantissa when two are equally near. The text of a
number has the fewest digits that still round to it, and of those the nearest ones.
-/

namespace ChannelCatalog
namespace Number

/-- The number `mantissa * 2 ^ exponent`. -/
structure Binary64 where
  mantissa : Nat
  exponent : Int
deriving DecidableEq, Repr

namespace Binary64

def zero : Binary64 := ⟨0, 0⟩

/-- The power of two with a given exponent, as a fraction. -/
def powerOfTwo (exponent : Int) : Nat × Nat :=
  (Nat.pow 2 exponent.toNat, Nat.pow 2 (-exponent).toNat)

/-- The exponent of the largest power of two that is at most `num / den`. -/
def topExponent (num den : Nat) : Int :=
  let guess : Int := (num.log2 : Int) - den.log2
  let (n, d) := powerOfTwo guess
  if den * n ≤ num * d then guess else guess - 1

/-- Rounds a quotient to an integer, to the even one when two are equally near. -/
def roundQuotient (num den : Nat) : Nat :=
  let quotient := num / den
  let rest := num % den
  if den < 2 * rest ∨ (2 * rest = den ∧ quotient % 2 = 1) then quotient + 1 else quotient

/-- The number nearest to `num / den`, unless that is beyond the largest. -/
def nearest? (num den : Nat) : Option Binary64 :=
  if num = 0 then some zero
  else
    let exponent := max (topExponent num den - 52) (-1074)
    let (n, d) := powerOfTwo exponent
    let mantissa := roundQuotient (num * d) (den * n)
    let rounded : Binary64 :=
      if mantissa = Nat.pow 2 53 then ⟨Nat.pow 2 52, exponent + 1⟩ else ⟨mantissa, exponent⟩
    if rounded.exponent ≤ 971 then some rounded else none

/-- The number as a fraction. -/
def toFraction (x : Binary64) : Nat × Nat :=
  let (n, d) := powerOfTwo x.exponent
  (x.mantissa * n, d)

/-- The nearest number to the product with a power of ten, itself rounded first. -/
def timesTen? (x : Binary64) (power : Nat) : Option Binary64 := do
  let factor ← nearest? (Nat.pow 10 power) 1
  let (n, d) := x.toFraction
  let (fn, fd) := factor.toFraction
  nearest? (n * fn) (d * fd)

/-- The nearest number to the quotient by a power of ten, itself rounded first. -/
def overTen? (x : Binary64) (power : Nat) : Option Binary64 := do
  let divisor ← nearest? (Nat.pow 10 power) 1
  let (n, d) := x.toFraction
  let (fn, fd) := divisor.toFraction
  nearest? (n * fd) (d * fn)

/-- The number for `digits * 10 ^ exponent`, by one multiplication or division with a power of
ten up to `10 ^ 308`, and a division by that power first when the exponent is below. -/
def ofScientific? (digits : Nat) (exponent : Int) : Option Binary64 := do
  let x ← nearest? digits 1
  if x.mantissa = 0 then return zero
  else if 0 ≤ exponent then
    if exponent ≤ 308 then x.timesTen? exponent.toNat else none
  else if -308 ≤ exponent then x.overTen? (-exponent).toNat
  else if -616 ≤ exponent then (← x.overTen? 308).overTen? (-exponent - 308).toNat
  else return zero

/-- A decimal `digits * 10 ^ exponent`. -/
structure Decimal where
  digits : Nat
  exponent : Int
deriving DecidableEq, Repr

/-- How `a * 10 ^ e` compares with `b * 2 ^ f`. -/
def compareScaled (a : Nat) (e : Int) (b : Nat) (f : Int) : Ordering :=
  let (bn, bd) := powerOfTwo f
  compare (a * Nat.pow 10 e.toNat * bd) (b * bn * Nat.pow 10 (-e).toNat)

/-- Whether a decimal rounds to the number: it lies no farther than half way to either
neighbour, and half way only if the mantissa is even. -/
def roundsTo (x : Binary64) (d : Decimal) : Bool :=
  let below := if x.mantissa = Nat.pow 2 52 ∧ -1074 < x.exponent then 1 else 2
  let low := compareScaled d.digits d.exponent (4 * x.mantissa - below) (x.exponent - 2)
  let high := compareScaled d.digits d.exponent (4 * x.mantissa + 2) (x.exponent - 2)
  if x.mantissa % 2 = 0 then low ≠ .lt && high ≠ .gt else low = .gt && high = .lt

/-- The number of decimal digits before the point of a positive number; for one below a tenth,
minus the number of zeros behind the point. -/
def magnitude (x : Binary64) : Int :=
  let (n, d) := x.toFraction
  if d ≤ n then (toString (n / d)).length
  else
    let zeros := ((List.range 330).takeWhile fun k => n * Nat.pow 10 (k + 1) < d).length
    Int.neg zeros

/-- The decimal with a given number of digits that rounds to the number, if there is one; the
nearer one of two, or the even one if they are equally near. -/
def withDigits? (x : Binary64) (count : Nat) : Option Decimal :=
  let exponent := x.magnitude - count
  let (n, d) := x.toFraction
  let scaledNum := n * Nat.pow 10 (-exponent).toNat
  let scaledDen := d * Nat.pow 10 exponent.toNat
  let lower : Decimal := ⟨scaledNum / scaledDen, exponent⟩
  let next := scaledNum / scaledDen + 1
  let upper : Decimal := if next = Nat.pow 10 count then ⟨1, exponent + count⟩ else ⟨next, exponent⟩
  let nearUpper := roundQuotient scaledNum scaledDen = next
  match x.roundsTo lower, x.roundsTo upper with
  | true, true => some (if nearUpper then upper else lower)
  | true, false => some lower
  | false, true => some upper
  | false, false => none

/-- The decimal with the fewest digits that rounds to the number. -/
def shortest (x : Binary64) : Decimal :=
  if x.mantissa = 0 then ⟨0, 0⟩
  else ((List.range 17).findSome? fun count => x.withDigits? (count + 1)).getD ⟨0, 0⟩

/-- The number of digits before the point of a decimal; for one below a tenth, minus the number
of zeros behind the point. -/
def Decimal.pointPlace (d : Decimal) : Int :=
  (toString d.digits).length + d.exponent

/-- The decimals written without an exponent: at most sixteen digits before the point, or at
most four zeros behind it. -/
def Decimal.isPositional (d : Decimal) : Bool :=
  d.digits = 0 || (-4 ≤ d.pointPlace && d.pointPlace ≤ 16)

/-- A decimal in positional notation, with at least one digit on either side of the point. -/
def Decimal.positional (d : Decimal) : List Char :=
  let digits := (toString d.digits).toList
  if 0 ≤ d.exponent then digits ++ List.replicate d.exponent.toNat '0' ++ ['.', '0']
  else
    let places := (-d.exponent).toNat
    let padded := List.replicate (places + 1 - digits.length) '0' ++ digits
    let whole := padded.length - places
    padded.take whole ++ '.' :: padded.drop whole

/-- A decimal with one digit before the point, if there is a point, and a signed exponent. -/
def Decimal.scientific (d : Decimal) : List Char :=
  let exponent := d.pointPlace - 1
  let sign := if exponent < 0 then '-' else '+'
  let digits :=
    match (toString d.digits).toList with
    | first :: second :: rest => first :: '.' :: second :: rest
    | short => short
  digits ++ 'e' :: sign :: (toString exponent.natAbs).toList

/-- The text of a decimal. -/
def Decimal.toText (d : Decimal) : String :=
  String.ofList (if d.isPositional then d.positional else d.scientific)

def toText (x : Binary64) : String :=
  x.shortest.toText

end Binary64
end Number
end ChannelCatalog
