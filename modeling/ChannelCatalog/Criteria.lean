import ChannelCatalog.Glob
import ChannelCatalog.Request

/-!
# Criteria

A request sorted by how each criterion is evaluated: name globs restrict the channels listed,
property keys and exact tags are counted together, and each tag pattern is looked up by itself.
-/

namespace ChannelCatalog

open Text (asciiLower lowercase)

/-- A request in buckets, one for each kind of evaluation. -/
structure Criteria where
  /-- Globs for the channel name, any one of which may match. -/
  names : List String := []
  /-- Tags without wildcards, each required. -/
  exactTags : List String := []
  /-- Tag globs, each required. -/
  tagPatterns : List String := []
  /-- Property keys, each required, with globs of which any one may match; a key without globs
  asks for any value. -/
  properties : List Entry := []
deriving DecidableEq, Repr

namespace Criteria

/-- Adds a tag: a glob as it is, an exact name in lower case unless it is there already. -/
def addTag (criteria : Criteria) (tag : String) : Criteria :=
  if Glob.isPattern tag then { criteria with tagPatterns := criteria.tagPatterns ++ [tag] }
  else
    let exact := asciiLower tag
    if criteria.exactTags.any (fun known => lowercase known = lowercase exact) then criteria
    else { criteria with exactTags := criteria.exactTags ++ [exact] }

/-- Adds values to the property with the given key up to letter case. -/
def addProperty (criteria : Criteria) (key : String) (values : List String) : Criteria :=
  { criteria with properties := Entry.extend key values criteria.properties }

/-- Puts one entry of a request into its bucket. Only ASCII case is ignored in telling the
reserved keys. -/
def addEntry (criteria : Criteria) (entry : Entry) : Criteria :=
  let key := asciiLower entry.key
  if key = nameKey then { criteria with names := criteria.names ++ entry.values }
  else if key = tagKey then entry.values.foldl addTag criteria
  else criteria.addProperty key entry.values

/-- Sorts a request into buckets. -/
def ofRequest (request : Request) : Criteria :=
  request.entries.foldl addEntry {}

/-- Criteria on the channel name only. -/
def ofNames (names : List String) : Criteria :=
  { names }

/-- Criteria on tags only. -/
def ofTags (tags : List String) : Criteria :=
  tags.foldl addTag {}

/-- Whether property keys or exact tags have to be counted. -/
def requiresPropertyMatch (criteria : Criteria) : Bool :=
  !criteria.properties.isEmpty || !criteria.exactTags.isEmpty

/-- Whether any criterion restricts the channels through their properties. -/
def hasIdCriteria (criteria : Criteria) : Bool :=
  criteria.requiresPropertyMatch || !criteria.tagPatterns.isEmpty

/-- How many distinct names a channel's matching properties must have. -/
def requiredMatches (criteria : Criteria) : Nat :=
  criteria.properties.length + criteria.exactTags.length

def isUnrestricted (criteria : Criteria) : Bool :=
  criteria.names.isEmpty && !criteria.hasIdCriteria

end Criteria
end ChannelCatalog
