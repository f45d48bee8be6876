/-!
# Glob patterns

In a glob, `*` stands for any sequence of characters and `?` for any single one; a backslash
before either makes it literal. The store matches with `LIKE` instead, where `%` and `_` are
the wildcards and a backslash escapes the character after it. A glob is split into tokens, and
each kind of token has one spelling in a `LIKE` pattern.
-/

namespace ChannelCatalog
namespace Glob

/-- One lexical unit of a glob. -/
inductive Token
  /-- A run of backslashes that escapes no wildcard. -/
  | backslashes (count : Nat)
  /-- A wildcard character after a backslash, taken literally. -/
  | escapedWildcard (c : Char)
  | anySequence
  | anyChar
  /-- A character that is ordinary in a glob and special in a `LIKE` pattern. -/
  | likeSpecial (c : Char)
  | literal (c : Char)
deriving DecidableEq, Repr

def isWildcard (c : Char) : Bool :=
  c = '*' || c = '?'

/-- Whether a text contains a wildcard character, escaped or not. -/
def isPattern (text : String) : Bool :=
  text.toList.any isWildcard

theorem isPattern_iff {text : String} :
    isPattern text = true ↔ '*' ∈ text.toList ∨ '?' ∈ text.toList := by
  simp [isPattern, isWildcard, and_or_left, exists_or]

namespace Token

/-- The token of a character that is no backslash and is not escaped. -/
def ofChar (c : Char) : Token :=
  if c = '*' then .anySequence
  else if c = '?' then .anyChar
  else if c = '%' ∨ c = '_' then .likeSpecial c
  else .literal c

/-- A run of backslashes as tokens: none for the empty run. -/
def ofRun : Nat → List Token
  | 0 => []
  | count + 1 => [.backslashes (count + 1)]

/-- The token as it stands in a glob. -/
def spelling : Token → List Char
  | .backslashes count => List.replicate count '\\'
  | .escapedWildcard c => ['\\', c]
  | .anySequence => ['*']
  | .anyChar => ['?']
  | .likeSpecial c => [c]
  | .literal c => [c]

/-- The token as it stands in a `LIKE` pattern. -/
def likeSpelling : Token → List Char
  | .backslashes count => List.replicate count '\\'
  | .escapedWildcard c => [c]
  | .anySequence => ['%']
  | .anyChar => ['_']
  | .likeSpecial c => ['\\', c]
  | .literal c => [c]

end Token

/-- Splits the rest of a glob into tokens after `run` backslashes. An odd run before a wildcard
escapes it with its last backslash. -/
def tokensAfter (run : Nat) : List Char → List Token
  | [] => Token.ofRun run
  | c :: rest =>
    if c = '\\' then tokensAfter (run + 1) rest
    else if isWildcard c ∧ run % 2 = 1 then
      Token.ofRun (run - 1) ++ .escapedWildcard c :: tokensAfter 0 rest
    else Token.ofRun run ++ Token.ofChar c :: tokensAfter 0 rest

/-- The tokens of a glob, from left to right. -/
def tokens (glob : String) : List Token :=
  tokensAfter 0 glob.toList

/-- The `LIKE` pattern for a glob. -/
def toLike (glob : String) : String :=
  String.ofList ((tokens glob).flatMap Token.likeSpelling)

@[simp] theorem toList_toLike (glob : String) :
    (toLike glob).toList = (tokens glob).flatMap Token.likeSpelling := by
  simp [toLike]

end Glob
end ChannelCatalog
