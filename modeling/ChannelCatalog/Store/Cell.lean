import ChannelCatalog.Text.Bytes
import ChannelCatalog.Text.Lowercase

/-!
# Cells

The values that are written to a store and those that its text columns hold. An integer written
to a text column becomes its decimal numeral; bytes stay bytes.
-/

namespace ChannelCatalog
namespace Store

/-- A value given to the store. -/
inductive Cell
  | null
  | int (value : Int)
  | text (value : String)
  | blob (bytes : List UInt8)
deriving DecidableEq, Repr

/-- A value in a text column. -/
inductive TextCell
  | null
  | text (value : String)
  | blob (bytes : List UInt8)
deriving DecidableEq, Repr

/-- The value as a text column keeps it. -/
def Cell.toTextCell : Cell → TextCell
  | .null => .null
  | .int value => .text (toString value)
  | .text value => .text value
  | .blob bytes => .blob bytes

/-- How a store folds the case of names. -/
inductive Folding
  /-- Only the letters `A` to `Z` are folded. -/
  | ascii
  /-- All of Unicode is folded. -/
  | unicode
deriving DecidableEq, Repr

/-- The folded form of a text. -/
def Folding.lower : Folding → String → String
  | .ascii => Text.asciiLower
  | .unicode => Text.lowercase

/-- The store's `LOWER` on any value. The Unicode folding leaves all but texts alone; the ASCII
folding reads a number as its numeral and bytes as the text they spell. -/
def Cell.lower : Folding → Cell → Cell
  | folding, .text value => .text (folding.lower value)
  | .ascii, .int value => .text (toString value)
  | .ascii, .blob bytes => .text (Text.asciiLower (Text.decodeBytes bytes))
  | _, cell => cell

namespace TextCell

/-- The cell with the given bytes for its text: a text if they spell one. -/
def ofBytes (bytes : List UInt8) : TextCell :=
  match Text.decode? bytes with
  | some value => text value
  | none => blob bytes

/-- The store's `LOWER` on a name. The ASCII folding takes bytes for text and folds each by
itself; the Unicode folding leaves them alone. -/
def lower : Folding → TextCell → TextCell
  | folding, text value => text (folding.lower value)
  | .ascii, blob bytes => ofBytes (bytes.map Text.asciiLowerByte)
  | _, cell => cell

/-- Whether one list of bytes comes no later than another in dictionary order. -/
def bytesLe : List UInt8 → List UInt8 → Bool
  | [], _ => true
  | _ :: _, [] => false
  | a :: as, b :: bs => a < b || (a = b && bytesLe as bs)

/-- The sort order of a column: nulls, then texts by their bytes, then other bytes. -/
def le : TextCell → TextCell → Bool
  | null, _ => true
  | _, null => false
  | text a, text b => a ≤ b
  | text _, blob _ => true
  | blob _, text _ => false
  | blob a, blob b => bytesLe a b

end TextCell
end Store
end ChannelCatalog
