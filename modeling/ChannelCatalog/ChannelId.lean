import ChannelCatalog.Text.CharClass

/-!
# Channel identifiers

A channel is identified by a 64-bit signed key that the store assigns. As text a key is a
decimal numeral, which may have a sign, leading zeros and blanks around it.
-/

namespace ChannelCatalog

/-- The key of a channel. -/
structure ChannelId where
  key : Int64
deriving DecidableEq, Repr

namespace ChannelId

/-- Why a text is no channel identifier. -/
inductive ParseError
  | empty
  | invalidDigit
  | tooLarge
  | tooSmall
deriving DecidableEq, Repr

/-- The name of the kind of error. -/
def ParseError.kind : ParseError → String
  | empty => "Empty"
  | invalidDigit => "InvalidDigit"
  | tooLarge => "PosOverflow"
  | tooSmall => "NegOverflow"

def ParseError.message : ParseError → String
  | empty => "cannot parse integer from empty string"
  | invalidDigit => "invalid digit found in string"
  | tooLarge => "number too large to fit in target type"
  | tooSmall => "number too small to fit in target type"

/-- Whether a number fits in a key. -/
def InRange (n : Int) : Prop :=
  -0x8000000000000000 ≤ n ∧ n < 0x8000000000000000

instance (n : Int) : Decidable (InRange n) :=
  inferInstanceAs (Decidable (_ ∧ _))

/-- The identifier with the given number as its key, if it fits. -/
def ofInt? (n : Int) : Option ChannelId :=
  if InRange n then some ⟨Int64.ofInt n⟩ else none

/-- The key as a number. -/
def toInt (id : ChannelId) : Int :=
  id.key.toInt

theorem toInt_of_ofInt? {n : Int} {id : ChannelId} (h : ofInt? n = some id) : id.toInt = n := by
  unfold ofInt? at h
  split at h
  · rename_i hrange
    cases h
    exact Int64.toInt_ofInt_of_le hrange.1 hrange.2
  · cases h

theorem toInt_injective {a b : ChannelId} (h : a.toInt = b.toInt) : a = b := by
  cases a
  cases b
  exact congrArg ChannelId.mk (Int64.toInt_inj.1 h)

/-- The key as a decimal numeral. -/
def toText (id : ChannelId) : String :=
  toString id.toInt

/-- Reads the remaining digits of a numeral, of which `value` has been read so far. The first
character that is no digit, or whose digit leaves the range, decides the error. -/
def readDigits (negative : Bool) (value : Int) : List Char → Except ParseError Int
  | [] => .ok value
  | c :: rest =>
    if c.isDigit then
      let digit : Int := c.toNat - '0'.toNat
      let next := if negative then value * 10 - digit else value * 10 + digit
      if InRange next then readDigits negative next rest
      else .error (if negative then .tooSmall else .tooLarge)
    else .error .invalidDigit

/-- Reads a numeral with an optional sign. -/
def readNumeral : List Char → Except ParseError Int
  | [] => .error .empty
  | ['+'] => .error .invalidDigit
  | ['-'] => .error .invalidDigit
  | '+' :: digits => readDigits false 0 digits
  | '-' :: digits => readDigits true 0 digits
  | digits => readDigits false 0 digits

/-- Reads an identifier, ignoring blanks at both ends. -/
def parse (text : String) : Except ParseError ChannelId :=
  (readNumeral (Text.trimBlanks text.toList)).map fun n => ⟨Int64.ofInt n⟩

end ChannelId
end ChannelCatalog
