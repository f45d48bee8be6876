/-!
# LIKE patterns

A pattern is read from left to right into elements: `%` stands for any sequence, `_` for any
one character, a backslash makes the next character literal, and a backslash at the end makes a
pattern that nothing matches. Letters compare without regard to ASCII case.

Matching tries the shortest run for each `%` first. Once the search behind a `%` has reached
the end of the text, a longer run for an earlier `%` cannot help, so the search is given up as
a whole.
-/

namespace ChannelCatalog
namespace Like

/-- One element of a pattern. -/
inductive Element
  | anySequence
  | anyChar
  | char (c : Char)
  /-- A lone backslash at the end: nothing matches. -/
  | never
deriving DecidableEq, Repr

/-- Reads a pattern into its elements. -/
def elements : List Char → List Element
  | [] => []
  | ['\\'] => [.never]
  | '\\' :: c :: rest => .char c :: elements rest
  | '%' :: rest => .anySequence :: elements rest
  | '_' :: rest => .anyChar :: elements rest
  | c :: rest => .char c :: elements rest

/-- Whether two characters are equal but for the case of an ASCII letter. -/
def sameChar (a b : Char) : Bool :=
  a.toLower = b.toLower

/-- How an attempt to match ends. -/
inductive Attempt
  | matched
  | failed
  /-- A search behind a `%` reached the end of the text. -/
  | exhausted
deriving DecidableEq, Repr

/-- Tries the suffixes of a text in turn until an attempt does not merely fail. -/
def search (attempt : List Char → Attempt) : List Char → Attempt
  | [] => if attempt [] = .matched then .matched else .exhausted
  | c :: rest => match attempt (c :: rest) with
    | .failed => search attempt rest
    | ended => ended

/-- Tries to match all of a text against elements. -/
def attempt : List Element → List Char → Attempt
  | [], [] => .matched
  | [], _ :: _ => .failed
  | .anySequence :: pattern, text => search (attempt pattern) text
  | .anyChar :: pattern, _ :: text => attempt pattern text
  | .char c :: pattern, d :: text => if sameChar c d then attempt pattern text else .failed
  | _ :: _, _ => .failed

/-- Whether all of a text matches the elements. -/
def matchesElements (pattern : List Element) (text : List Char) : Bool :=
  attempt pattern text = .matched

/-- Whether a text is `LIKE` a pattern. -/
def holds (pattern text : String) : Bool :=
  matchesElements (elements pattern.toList) text.toList

/-- The longest pattern that a store evaluates, in UTF-8 bytes. -/
def maxPatternBytes : Nat := 50000

def isTooLong (pattern : String) : Bool :=
  maxPatternBytes < pattern.utf8ByteSize

end Like
end ChannelCatalog
