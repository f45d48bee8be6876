import ChannelCatalog.Like

/-!
# What LIKE reads

A store reads both sides of a `LIKE` up to the first null character. Bytes that are no text are
read leniently: a byte that begins a sequence takes all continuation bytes after it, however
many, and any other byte stands for itself. The last two characters of the basic plane, and
sequences that stand for no character of their own, are read as the replacement character.
-/

namespace ChannelCatalog
namespace Like

/-- Stands for what is read as no character of its own. -/
def replacementChar : Char := '\uFFFD'

/-- Stands for a number above all characters. No pattern is read to contain it. -/
def beyondChar : Char := '\uFFFF'

/-- A character as it is read. -/
def readChar (c : Char) : Char :=
  if c = '\uFFFE' ∨ c = '\uFFFF' then replacementChar else c

/-- A text as it is read. -/
def readText (text : List Char) : List Char :=
  (text.takeWhile (· ≠ '\x00')).map readChar

/-- The bits that a byte from `C0` contributes to the sequence that it begins. -/
def leadBits (byte : Nat) : Nat :=
  if byte < 0xE0 then byte - 0xC0
  else if byte < 0xF0 then byte - 0xE0
  else if byte < 0xF8 then byte - 0xF0
  else if byte < 0xFC then byte - 0xF8
  else if byte < 0xFE then byte - 0xFC
  else 0

/-- The character of a whole sequence. -/
def sequenceChar (code : Nat) : Char :=
  if code < 0x80 ∨ (0xD800 ≤ code ∧ code < 0xE000) then replacementChar
  else if code ≤ 0x10FFFF then readChar (Char.ofNat code)
  else beyondChar

/-- Reads bytes after the sequence begun, if one is. Its number is kept in 32 bits. -/
def readBytesFrom : Option Nat → List UInt8 → List Char
  | none, [] => []
  | some code, [] => [sequenceChar code]
  | none, byte :: rest =>
    if byte = 0 then []
    else if byte < 0xC0 then Char.ofNat byte.toNat :: readBytesFrom none rest
    else readBytesFrom (some (leadBits byte.toNat)) rest
  | some code, byte :: rest =>
    if byte = 0 then [sequenceChar code]
    else if byte < 0x80 then sequenceChar code :: Char.ofNat byte.toNat :: readBytesFrom none rest
    else if byte < 0xC0 then
      readBytesFrom (some ((code * 64 + (byte.toNat - 0x80)) % 2 ^ 32)) rest
    else sequenceChar code :: readBytesFrom (some (leadBits byte.toNat)) rest

/-- Bytes as they are read. -/
def readBytes (bytes : List UInt8) : List Char :=
  readBytesFrom none bytes

/-- Whether what was read is `LIKE` a pattern. -/
def holdsFor (pattern : String) (text : List Char) : Bool :=
  matchesElements (elements (readText pattern.toList)) text

end Like
end ChannelCatalog
