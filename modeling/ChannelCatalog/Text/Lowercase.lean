import ChannelCatalog.Text.CaseTable
import ChannelCatalog.Text.CharClass

/-!
# Lower-casing

Two foldings of letter case. `asciiLower` changes the letters `A` to `Z` only. `lowercase` is
Unicode's full mapping: the dotted capital I becomes two characters, and a capital sigma takes
its final form when a cased letter comes before it and none comes after it, case-ignorable
characters not counted.
-/

namespace ChannelCatalog
namespace Text

/-- Folds the letters `A` to `Z` and no others. -/
def asciiLower (text : String) : String :=
  String.ofList (text.toList.map Char.toLower)

/-- Folds the bytes of the letters `A` to `Z` and no others. -/
def asciiLowerByte (byte : UInt8) : UInt8 :=
  if 0x41 ≤ byte ∧ byte ≤ 0x5A then byte + 0x20 else byte

/-- The small form of a character outside any context. -/
def lowerChar (c : Char) : List Char :=
  if c = 'İ' then ['i', '\u0307']
  else match CaseRun.find? caseRuns c.toNat with
    | some small => [Char.ofNat small]
    | none => [c]

/-- Whether the first character that is not case-ignorable is cased. -/
def casedAhead : List Char → Bool
  | [] => false
  | c :: rest => if isCaseIgnorable c then casedAhead rest else isCased c

/-- Lower-cases the rest of a text; `casedBefore` tells whether the nearest character before
it that is not case-ignorable is cased. -/
def lowerFrom (casedBefore : Bool) : List Char → List Char
  | [] => []
  | c :: rest =>
    let here :=
      if c = 'Σ' then [if casedBefore && !casedAhead rest then 'ς' else 'σ'] else lowerChar c
    here ++ lowerFrom (if isCaseIgnorable c then casedBefore else isCased c) rest

/-- Unicode's full lower-casing of a text. -/
def lowercase (text : String) : String :=
  String.ofList (lowerFrom false text.toList)

@[simp] theorem toList_asciiLower (text : String) :
    (asciiLower text).toList = text.toList.map Char.toLower := by
  simp [asciiLower]

@[simp] theorem toList_lowercase (text : String) :
    (lowercase text).toList = lowerFrom false text.toList := by
  simp [lowercase]

end Text
end ChannelCatalog
