import ChannelCatalog.Text.Lowercase

/-!
# Search requests

A request maps criterion keys to lists of patterns. Keys are compared without regard to letter
case; keys that differ only in case share the entry of the first, with its spelling. Entries
keep the order in which their keys came first, values the order in which they were given.
-/

namespace ChannelCatalog

open Text (lowercase)

/-- The reserved key whose values are globs for the channel name. -/
def nameKey : String := "~name"

/-- The reserved key whose values are tag names or globs. -/
def tagKey : String := "~tag"

/-- A key and the values given for it. -/
structure Entry where
  key : String
  values : List String
deriving DecidableEq, Repr

namespace Entry

/-- Whether the entry's key is the given one up to letter case. -/
def hasKey (key : String) (entry : Entry) : Bool :=
  lowercase entry.key = lowercase key

/-- Appends values to the first entry for a key, or to a new last entry. -/
def extend (key : String) (values : List String) : List Entry → List Entry
  | [] => [⟨key, values⟩]
  | entry :: rest =>
    if entry.hasKey key then { entry with values := entry.values ++ values } :: rest
    else entry :: extend key values rest

end Entry

/-- An ordered multimap from keys to patterns. -/
structure Request where
  entries : List Entry
deriving DecidableEq, Repr

namespace Request

def empty : Request := ⟨[]⟩

/-- Appends every value under a key. The key is present afterwards even without values. -/
def extend (request : Request) (key : String) (values : List String) : Request :=
  ⟨Entry.extend key values request.entries⟩

/-- Appends one value under a key. -/
def add (request : Request) (key value : String) : Request :=
  request.extend key [value]

/-- The values of the first entry for a key. -/
def get? (request : Request) (key : String) : Option (List String) :=
  (request.entries.find? (Entry.hasKey key)).map Entry.values

/-- The request made by adding pairs in order. -/
def ofPairs (pairs : List (String × String)) : Request :=
  pairs.foldl (fun request pair => request.add pair.1 pair.2) empty

end Request
end ChannelCatalog
