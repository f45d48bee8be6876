import ChannelCatalog.Criteria
import ChannelCatalog.IdSet
import ChannelCatalog.Sql.Fragment

/-!
# Queries of a search

A search asks the store two kinds of question. An `IdQuery` asks which channels have certain
properties or tags; a `RowQuery` asks for the rows of the channels found. Each query is a value
that a store can evaluate, and has a rendering as an SQL statement. In a query every glob has
become a `LIKE` pattern.
-/

namespace ChannelCatalog

open Text (asciiLower)
open Sql

/-- A test of a single property row. -/
inductive Clause
  /-- The name is the key up to the store's case folding, and the value is `LIKE` one of the
  patterns, or there is a value when no pattern is given. -/
  | property (key : String) (patterns : List String)
  /-- The name is the tag up to the store's case folding, and there is no value. -/
  | tag (name : String)
deriving DecidableEq, Repr

namespace Clause

/-- The clause for a property criterion. -/
def ofProperty (entry : Entry) : Clause :=
  .property entry.key (entry.values.map Glob.toLike)

/-- The beginning of every clause: the name is the given one up to case folding. -/
def nameIs (before name : String) : Fragment :=
  ((Fragment.sql (before ++ "LOWER(p0.property) = LOWER(")).pushParam (.text name))

/-- The test of the value in a property clause. -/
def valueTest (patterns : List String) : Fragment :=
  if patterns.isEmpty then Fragment.sql "p0.value IS NOT NULL"
  else (Fragment.join (patterns.map (Fragment.empty.pushLike "p0.value")) " OR ").parenthesized

def fragment : Clause → Fragment
  | .property key patterns =>
    (Fragment.join [(nameIs "" key).pushSql ")", valueTest patterns] " AND ").parenthesized
  | .tag name => (nameIs "(" name).pushSql ") AND p0.value IS NULL)"

end Clause

/-- A question about channels whose answer is a list of identifiers. -/
inductive IdQuery
  /-- Channels whose rows that pass some clause have as many distinct names as required. -/
  | counted (clauses : List Clause) (required : Nat)
  /-- Channels with a tag whose folded name is `LIKE` the folded pattern. -/
  | tagLike (pattern : String)
deriving DecidableEq, Repr

namespace IdQuery

/-- The query for a tag glob. Its letters are put in lower case as far as every store agrees. -/
def ofTagPattern (glob : String) : IdQuery :=
  .tagLike (asciiLower (Glob.toLike glob))

def fragment : IdQuery → Fragment
  | .counted clauses required =>
    (((Fragment.sql "SELECT p0.channel_id FROM property p0 WHERE ").push
      (Fragment.join (clauses.map Clause.fragment) " OR ")).pushSql
        " GROUP BY p0.channel_id HAVING COUNT(DISTINCT LOWER(p0.property)) = ").pushParam
          (.int required)
  | .tagLike pattern =>
    ((Fragment.sql "SELECT p0.channel_id FROM property p0 WHERE ").pushLikeFolded
      "p0.property" pattern).pushSql " AND p0.value IS NULL GROUP BY p0.channel_id"

end IdQuery

namespace Criteria

/-- One clause for each property key, then one for each exact tag. -/
def clauses (criteria : Criteria) : List Clause :=
  criteria.properties.map Clause.ofProperty ++ criteria.exactTags.map Clause.tag

theorem clauses_eq_nil_iff {criteria : Criteria} :
    criteria.clauses = [] ↔ criteria.properties = [] ∧ criteria.exactTags = [] := by
  simp [clauses]

theorem requiresPropertyMatch_iff {criteria : Criteria} :
    criteria.requiresPropertyMatch = true ↔ criteria.clauses ≠ [] := by
  rw [Ne, clauses_eq_nil_iff]
  simp [requiresPropertyMatch, Classical.or_iff_not_imp_left]

theorem length_clauses (criteria : Criteria) :
    criteria.clauses.length = criteria.requiredMatches := by
  simp [clauses, requiredMatches]

/-- The query for property keys and exact tags, if there are any. -/
def propertyMatch? (criteria : Criteria) : Option IdQuery :=
  if criteria.requiresPropertyMatch then
    some (.counted criteria.clauses criteria.requiredMatches)
  else none

theorem propertyMatch?_of_clauses_eq_nil {criteria : Criteria} (h : criteria.clauses = []) :
    criteria.propertyMatch? = none :=
  if_neg fun hrequires => requiresPropertyMatch_iff.1 hrequires h

theorem propertyMatch?_of_clauses_ne_nil {criteria : Criteria} (h : criteria.clauses ≠ []) :
    criteria.propertyMatch? = some (.counted criteria.clauses criteria.clauses.length) := by
  rw [propertyMatch?, if_pos (requiresPropertyMatch_iff.2 h), length_clauses]

/-- All queries whose answers restrict the channels, in the order in which they are asked. -/
def idQueries (criteria : Criteria) : List IdQuery :=
  criteria.propertyMatch?.toList ++ criteria.tagPatterns.map IdQuery.ofTagPattern

end Criteria

/-- A question for the rows of channels joined to their properties, by channel name and then
property name. -/
structure RowQuery where
  /-- The only channels to list, if they are restricted. -/
  ids : Option IdSet
  /-- Patterns for the channel name, any one of which may match; none asks for every name. -/
  names : List String

namespace RowQuery

/-- The query for name globs among the given channels. -/
def ofNames (names : List String) (ids : Option IdSet) : RowQuery :=
  ⟨ids, names.map Glob.toLike⟩

/-- The restrictions on the channels listed. -/
def conditions (query : RowQuery) : List Fragment :=
  (query.ids.map fun ids =>
    Fragment.empty.pushInList "c.id" (ids.toList.map ChannelId.toInt)).toList ++
  if query.names.isEmpty then []
  else [(Fragment.join (query.names.map (Fragment.empty.pushLike "c.name")) " OR ").parenthesized]

/-- The columns and tables of the listing. -/
def projection : String :=
  "SELECT c.name, c.owner, p.property, p.value, p.owner " ++
    "FROM channel c LEFT JOIN property p ON c.id = p.channel_id"

def fragment (query : RowQuery) : Fragment :=
  let listing := Fragment.sql projection
  let restricted :=
    if query.conditions.isEmpty then listing
    else (listing.pushSql " WHERE ").push (Fragment.join query.conditions " AND ")
  restricted.pushSql " ORDER BY c.name, p.property"

end RowQuery
end ChannelCatalog
