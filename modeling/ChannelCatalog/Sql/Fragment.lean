/-!
# SQL fragments

A fragment is SQL text interleaved with values for parameter slots. Text and values stay apart
until a fragment is rendered for a dialect, so no value ever becomes part of the text, and
slots are numbered by their place in the finished statement.
-/

namespace ChannelCatalog
namespace Sql

/-- A value bound to a parameter slot. -/
inductive Param
  | int (value : Int)
  | text (value : String)
  /-- A set of integers bound to a single slot. -/
  | intList (values : List Int)
deriving DecidableEq, Repr

/-- The flavours of SQL that statements are rendered in. -/
inductive Dialect
  | sqlite
  | postgres
  | mysql
deriving DecidableEq, Repr

/-- SQL text and the values for its slots, in slot order. -/
structure Statement where
  sql : String
  params : List Param
deriving DecidableEq, Repr

namespace Dialect

/-- The placeholder of the slot with the given number, counted from one. -/
def placeholder (dialect : Dialect) (slot : Nat) : String :=
  match dialect with
  | sqlite | mysql => "?"
  | postgres => "$" ++ toString slot

/-- The clause that makes a backslash the escape character of `LIKE`. -/
def likeEscape : Dialect → String
  | sqlite | postgres => " ESCAPE '\\'"
  | mysql => " ESCAPE '\\\\'"

/-- A membership test whose first slot has the given number: one slot for the whole set, or in
MySQL, which binds no arrays, one for each member. -/
def inList (dialect : Dialect) (slot : Nat) (column : String) (ids : List Int) : Statement :=
  match dialect with
  | mysql =>
    let slots := (List.range ids.length).map fun i => mysql.placeholder (slot + i)
    ⟨column ++ " IN (" ++ String.intercalate "," slots ++ ")", ids.map Param.int⟩
  | postgres => ⟨column ++ " = ANY(" ++ postgres.placeholder slot ++ ")", [.intList ids]⟩
  | sqlite => ⟨column ++ " IN rarray(" ++ sqlite.placeholder slot ++ ")", [.intList ids]⟩

end Dialect

/-- A piece of a fragment. -/
inductive Part
  | sql (text : String)
  | param (value : Param)
  | likeEscape
  | inList (column : String) (ids : List Int)
deriving DecidableEq, Repr

namespace Part

/-- The value that a part binds. An id set is one value, in whatever dialect. -/
def value? : Part → Option Param
  | .param value => some value
  | .inList _ ids => some (.intList ids)
  | .sql _ | .likeEscape => none

/-- A part as it stands in a statement where its first slot has the given number. -/
def render (dialect : Dialect) (slot : Nat) : Part → Statement
  | .sql text => ⟨text, []⟩
  | .param value => ⟨dialect.placeholder slot, [value]⟩
  | .likeEscape => ⟨dialect.likeEscape, []⟩
  | .inList column ids => dialect.inList slot column ids

/-- Appends text to parts, as one part with the text before it; empty text changes nothing. -/
def appendText (text : String) : List Part → List Part
  | [] => if text = "" then [] else [.sql text]
  | [.sql before] => [.sql (before ++ text)]
  | part :: rest => part :: appendText text rest

/-- Text goes to the last part. -/
theorem appendText_cons_cons (text : String) (part next : Part) (rest : List Part) :
    appendText text (part :: next :: rest) = part :: appendText text (next :: rest) := by
  cases part <;> rfl

/-- Parts in sequence, as a statement whose first slot has the given number. -/
def renderAll (dialect : Dialect) (slot : Nat) : List Part → Statement
  | [] => ⟨"", []⟩
  | part :: rest =>
    let first := part.render dialect slot
    let others := renderAll dialect (slot + first.params.length) rest
    ⟨first.sql ++ others.sql, first.params ++ others.params⟩

end Part

/-- SQL text interleaved with values for parameter slots. -/
structure Fragment where
  parts : List Part
deriving DecidableEq, Repr

namespace Fragment

def empty : Fragment := ⟨[]⟩

/-- Appends SQL text. -/
def pushSql (fragment : Fragment) (text : String) : Fragment :=
  ⟨Part.appendText text fragment.parts⟩

/-- Appends a part that holds no text. -/
def pushPart (fragment : Fragment) : Part → Fragment
  | .sql text => fragment.pushSql text
  | part => ⟨fragment.parts ++ [part]⟩

/-- A fragment of SQL text only. -/
def sql (text : String) : Fragment :=
  empty.pushSql text

/-- Appends a slot bound to a value. -/
def pushParam (fragment : Fragment) (value : Param) : Fragment :=
  fragment.pushPart (.param value)

/-- Appends `column LIKE slot`, with the escape clause. -/
def pushLike (fragment : Fragment) (column pattern : String) : Fragment :=
  ((fragment.pushSql (column ++ " LIKE ")).pushParam (.text pattern)).pushPart .likeEscape

/-- Appends `LOWER(column) LIKE LOWER(slot)`, with the escape clause: the store folds both
sides in its own way. -/
def pushLikeFolded (fragment : Fragment) (column pattern : String) : Fragment :=
  (((fragment.pushSql ("LOWER(" ++ column ++ ") LIKE LOWER(")).pushParam
    (.text pattern)).pushSql ")").pushPart .likeEscape

/-- Appends a test whether a column is among ids. -/
def pushInList (fragment : Fragment) (column : String) (ids : List Int) : Fragment :=
  fragment.pushPart (.inList column ids)

/-- Appends another fragment; text meeting at the seam becomes one part. -/
def push (fragment other : Fragment) : Fragment :=
  other.parts.foldl pushPart fragment

/-- Wraps a fragment in parentheses. -/
def parenthesized (fragment : Fragment) : Fragment :=
  ((sql "(").push fragment).pushSql ")"

/-- Joins fragments with a separator. -/
def join (fragments : List Fragment) (separator : String) : Fragment :=
  match fragments with
  | [] => empty
  | first :: rest =>
    rest.foldl (fun joined fragment => (joined.pushSql separator).push fragment)
      (empty.push first)

def isEmpty (fragment : Fragment) : Bool :=
  fragment.parts.isEmpty

/-- The bound values in slot order, an id set being one value. -/
def params (fragment : Fragment) : List Param :=
  fragment.parts.filterMap Part.value?

/-- The finished statement in a dialect. -/
def render (fragment : Fragment) (dialect : Dialect) : Statement :=
  Part.renderAll dialect 1 fragment.parts

end Fragment
end Sql
end ChannelCatalog
