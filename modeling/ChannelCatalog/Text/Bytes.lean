/-!
# Texts and bytes

Texts as UTF-8, and reading bytes as UTF-8 where they may be ill-formed: each maximal ill-formed
part, that is each longest start of a well-formed sequence that is not completed, or else each
single byte that starts none, is read as one replacement character. Texts and bytes alike are
divided at a separator, where every occurrence divides, or only the first one does.
-/

namespace ChannelCatalog
namespace Text

/-! ## Texts as bytes -/

/-- The bytes of a text. -/
def encode (text : String) : List UInt8 :=
  text.toList.flatMap String.utf8EncodeChar

/-- A multi-byte sequence that has begun: the bits read so far, how many bytes are to come, and
the range in which the next one must lie. -/
structure PartialChar where
  bits : Nat
  missing : Nat
  low : Nat
  high : Nat
deriving DecidableEq, Repr

/-- What a byte means at the start of a sequence. -/
inductive LeadByte
  | complete (c : Char)
  | opens (begun : PartialChar)
  | illFormed
deriving DecidableEq, Repr

/-- Classifies a byte at the start of a sequence. The ranges for the second byte leave out
overlong forms, surrogates and numbers above the last code point. -/
def LeadByte.ofByte (byte : UInt8) : LeadByte :=
  let b := byte.toNat
  if b < 0x80 then .complete (Char.ofNat b)
  else if b < 0xC2 then .illFormed
  else if b < 0xE0 then .opens ⟨b - 0xC0, 1, 0x80, 0xBF⟩
  else if b = 0xE0 then .opens ⟨0, 2, 0xA0, 0xBF⟩
  else if b = 0xED then .opens ⟨0xD, 2, 0x80, 0x9F⟩
  else if b < 0xF0 then .opens ⟨b - 0xE0, 2, 0x80, 0xBF⟩
  else if b = 0xF0 then .opens ⟨0, 3, 0x90, 0xBF⟩
  else if b < 0xF4 then .opens ⟨b - 0xF0, 3, 0x80, 0xBF⟩
  else if b = 0xF4 then .opens ⟨4, 3, 0x80, 0x8F⟩
  else .illFormed

/-- Stands for an ill-formed part. -/
def replacementChar : Char := '\uFFFD'

/-- Reads bytes after the sequence `begun`, if one is under way. -/
def decodeFrom : Option PartialChar → List UInt8 → List Char
  | none, [] => []
  | some _, [] => [replacementChar]
  | begun, byte :: rest =>
    let fresh :=
      match LeadByte.ofByte byte with
      | .complete c => c :: decodeFrom none rest
      | .opens next => decodeFrom (some next) rest
      | .illFormed => replacementChar :: decodeFrom none rest
    match begun with
    | none => fresh
    | some p =>
      if p.low ≤ byte.toNat ∧ byte.toNat ≤ p.high then
        let bits := p.bits * 64 + (byte.toNat - 0x80)
        if p.missing ≤ 1 then Char.ofNat bits :: decodeFrom none rest
        else decodeFrom (some ⟨bits, p.missing - 1, 0x80, 0xBF⟩) rest
      else replacementChar :: fresh

/-- The text that the bytes spell, with a replacement character for each ill-formed part. -/
def decodeBytes (bytes : List UInt8) : String :=
  String.ofList (decodeFrom none bytes)

/-- The text that the bytes spell, if they are well-formed. -/
def decode? (bytes : List UInt8) : Option String :=
  let spelled := decodeBytes bytes
  if encode spelled = bytes then some spelled else none

/-! ## Separators -/

section Separators

variable {α : Type} [DecidableEq α]

/-- The parts between the occurrences of a separator; there is always one more than these. -/
def splitAll (separator : α) : List α → List (List α)
  | [] => [[]]
  | a :: rest =>
    if a = separator then [] :: splitAll separator rest
    else match splitAll separator rest with
      | [] => [[a]]
      | part :: parts => (a :: part) :: parts

/-- What comes before the first occurrence of a separator, and what comes after it if it
occurs. -/
def splitFirst (separator : α) : List α → List α × Option (List α)
  | [] => ([], none)
  | a :: rest =>
    if a = separator then ([], some rest)
    else
      let (before, after) := splitFirst separator rest
      (a :: before, after)

end Separators

end Text
end ChannelCatalog
