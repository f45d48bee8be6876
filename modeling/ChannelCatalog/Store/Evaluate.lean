import ChannelCatalog.Like.Reading
import ChannelCatalog.Query
import ChannelCatalog.Channel
import ChannelCatalog.Store.Basic

/-!
# Evaluating queries

What the queries of a search mean on tables. Tests are evaluated from left to right and stop
at the first that decides, so an overlong pattern is an error only where it is compared with a
cell. Rows are read in the order of the result, and the first cell of an unexpected type is an
error.
-/

namespace ChannelCatalog
namespace Store

/-- A cell as `LIKE` reads it; null is not read. -/
def TextCell.likeText? : TextCell → Option (List Char)
  | .null => none
  | .text value => some (Like.readText value.toList)
  | .blob bytes => some (Like.readBytes bytes)

/-- Whether a cell is `LIKE` a pattern; null is like nothing. -/
def TextCell.isLike (cell : TextCell) (pattern : String) : Except StoreError Bool :=
  if Like.isTooLong pattern then .error .patternTooLong
  else .ok (cell.likeText?.any (Like.holdsFor pattern))

/-- Whether a cell is `LIKE` one of the patterns. -/
def TextCell.isLikeAny (cell : TextCell) : List String → Except StoreError Bool
  | [] => .ok false
  | pattern :: rest => do
    if ← cell.isLike pattern then return true
    cell.isLikeAny rest

/-- Whether a property passes a clause. -/
def PropertyRecord.passes (folding : Folding) (property : PropertyRecord) :
    Clause → Except StoreError Bool
  | .property key patterns =>
    if property.name.lower folding ≠ .text (folding.lower key) then .ok false
    else if patterns.isEmpty then .ok (property.value ≠ .null)
    else property.value.isLikeAny patterns
  | .tag name =>
    .ok (property.name.lower folding = .text (folding.lower name) && property.value = .null)

/-- Whether a property passes one of the clauses. -/
def PropertyRecord.passesAny (folding : Folding) (property : PropertyRecord) :
    List Clause → Except StoreError Bool
  | [] => .ok false
  | clause :: rest => do
    if ← property.passes folding clause then return true
    property.passesAny folding rest

/-- Whether a property is a tag whose folded name is `LIKE` the folded pattern. -/
def PropertyRecord.isTagLike (folding : Folding) (property : PropertyRecord) (pattern : String) :
    Except StoreError Bool := do
  let named ← (property.name.lower folding).isLike (folding.lower pattern)
  return named && property.value = .null

/-- The members of a list that pass a test, unless the test fails on one. -/
def select {α : Type} (test : α → Except StoreError Bool) : List α → Except StoreError (List α)
  | [] => .ok []
  | x :: rest => do
    let passed ← test x
    let others ← select test rest
    return if passed then x :: others else others

/-- The members of a list, each once. -/
def distinct {α : Type} [DecidableEq α] : List α → List α
  | [] => []
  | x :: rest => if x ∈ rest then distinct rest else x :: distinct rest

theorem mem_distinct {α : Type} [DecidableEq α] {x : α} {xs : List α} :
    x ∈ distinct xs ↔ x ∈ xs := by
  induction xs with
  | nil => simp [distinct]
  | cons y ys ih => by_cases h : y ∈ ys <;> grind [distinct]

theorem nodup_distinct {α : Type} [DecidableEq α] (xs : List α) : (distinct xs).Nodup := by
  induction xs with
  | nil => simp [distinct]
  | cons y ys ih =>
    by_cases h : y ∈ ys
    · simpa [distinct, h] using ih
    · simpa [distinct, h, mem_distinct] using ih

/-- How many distinct folded names the properties of a channel have, nulls not counted. -/
def nameCount (folding : Folding) (properties : List PropertyRecord)
    (channel : Option ChannelId) : Nat :=
  let own := properties.filter fun property => property.channel = channel
  (distinct ((own.map fun property => property.name.lower folding).filter (· ≠ .null))).length

/-- Reads a column of channel identifiers, in which null is unexpected. -/
def readIds : List (Option ChannelId) → Except StoreError (List ChannelId)
  | [] => .ok []
  | none :: _ => .error (.unexpectedType .null 0 "channel_id")
  | some id :: rest => do
    let others ← readIds rest
    return id :: others

/-- The answer to a query for identifiers. -/
def Tables.fetchIds (tables : Tables) (folding : Folding) :
    IdQuery → Except StoreError (List ChannelId)
  | .counted clauses required => do
    let passing ← select (fun property => property.passesAny folding clauses) tables.properties
    let groups := distinct (passing.map PropertyRecord.channel)
    readIds (groups.filter fun channel => nameCount folding passing channel = required)
  | .tagLike pattern => do
    let passing ← select (fun property => property.isTagLike folding pattern) tables.properties
    readIds (distinct (passing.map PropertyRecord.channel))

/-- A line of the listing before its cells are read. -/
structure JoinedRow where
  channelName : TextCell
  channelOwner : TextCell
  propertyName : TextCell
  propertyValue : TextCell
  propertyOwner : TextCell
deriving DecidableEq, Repr

/-- The lines of a channel: one for each of its properties, or one without a property. -/
def ChannelRecord.join (channel : ChannelRecord) (properties : List PropertyRecord) :
    List JoinedRow :=
  match properties.filter fun property => property.channel = some channel.id with
  | [] => [⟨channel.name, channel.owner, .null, .null, .null⟩]
  | own => own.map fun property =>
    ⟨channel.name, channel.owner, property.name, property.value, property.owner⟩

/-- The order of the listing: by channel name, then by property name. -/
def JoinedRow.le (a b : JoinedRow) : Bool :=
  if a.channelName = b.channelName then a.propertyName.le b.propertyName
  else a.channelName.le b.channelName

/-- The order in which a whole listing reads properties: by value, then by owner. -/
def PropertyRecord.contentLe (a b : PropertyRecord) : Bool :=
  if a.value = b.value then a.owner.le b.owner else a.value.le b.value

/-- Reads a cell that may be null. -/
def TextCell.readOptional (index : Nat) (column : String) :
    TextCell → Except StoreError (Option String)
  | .null => .ok none
  | .text value => .ok (some value)
  | .blob _ => .error (.unexpectedType .blob index column)

/-- Reads a cell that must not be null. -/
def TextCell.read (index : Nat) (column : String) : TextCell → Except StoreError String
  | .null => .error (.unexpectedType .null index column)
  | .text value => .ok value
  | .blob _ => .error (.unexpectedType .blob index column)

/-- Reads the cells of a line from left to right. -/
def JoinedRow.read (row : JoinedRow) : Except StoreError Row := do
  let channelName ← row.channelName.read 0 "name"
  let channelOwner ← row.channelOwner.read 1 "owner"
  let propertyName ← row.propertyName.readOptional 2 "property"
  let propertyValue ← row.propertyValue.readOptional 3 "value"
  let propertyOwner ← row.propertyOwner.readOptional 4 "owner"
  return { channelName, channelOwner, propertyName, propertyValue, propertyOwner }

/-- Reads the lines of a listing in order. -/
def readRows : List JoinedRow → Except StoreError (List Row)
  | [] => .ok []
  | row :: rest => do
    let first ← row.read
    let others ← readRows rest
    return first :: others

/-- Whether a channel is to be listed. -/
def ChannelRecord.isListed (channel : ChannelRecord) (query : RowQuery) :
    Except StoreError Bool :=
  if query.ids.any fun ids => channel.id ∉ ids then .ok false
  else if query.names.isEmpty then .ok true
  else channel.name.isLikeAny query.names

/-- The properties in the order in which the query reads them, which decides between lines with
equal names: as they were inserted, or by content where neither an index nor the identifiers
sought lead to them. -/
def Tables.propertiesFor (tables : Tables) (query : RowQuery) : List PropertyRecord :=
  match tables.schema, query.ids with
  | .unconstrained false, none => tables.properties.mergeSort PropertyRecord.contentLe
  | _, _ => tables.properties

/-- The answer to a query for rows. -/
def Tables.fetchRows (tables : Tables) (query : RowQuery) : Except StoreError (List Row) := do
  let listed ← select (fun channel => channel.isListed query) tables.channels
  let properties := tables.propertiesFor query
  let lines := listed.flatMap fun channel => channel.join properties
  readRows (lines.mergeSort JoinedRow.le)

end Store
end ChannelCatalog
