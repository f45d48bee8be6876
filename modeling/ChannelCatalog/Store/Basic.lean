import ChannelCatalog.ChannelId
import ChannelCatalog.Store.Cell

/-!
# Tables of a store

A store holds channels and their properties. Under the reference schema names and owners are
required, channel names are unique, each channel has at most one property of a name, every
property belongs to a channel, and identifiers are never used twice. Unconstrained tables keep
only identifiers apart; they may have an index, which shows in the order of a listing alone. What
a change would violate is told by the error.
-/

namespace ChannelCatalog
namespace Store

/-- The types that a result column must not have. -/
inductive CellKind
  | null
  | blob
deriving DecidableEq, Repr

def CellKind.name : CellKind → String
  | null => "Null"
  | blob => "Blob"

/-- Why the store refuses a step or a query. -/
inductive StoreError
  | noSuchTable (table : String)
  | required (column : String)
  | notUnique (columns : String)
  | unknownChannel
  | noIdLeft
  | patternTooLong
  | tooDeep
  | tooManySlots
  | unexpectedType (kind : CellKind) (index : Nat) (column : String)
  | transactionOpen
  /-- There is no transaction for the action, `commit` or `rollback`. -/
  | noTransaction (action : String)
  | notADatabase
deriving DecidableEq, Repr

def StoreError.message : StoreError → String
  | noSuchTable table => "no such table: " ++ table
  | required column => "NOT NULL constraint failed: " ++ column
  | notUnique columns => "UNIQUE constraint failed: " ++ columns
  | unknownChannel => "FOREIGN KEY constraint failed"
  | noIdLeft => "database or disk is full"
  | patternTooLong => "LIKE or GLOB pattern too complex"
  | tooDeep => "Expression tree is too large (maximum depth 1000)"
  | tooManySlots => "too many SQL variables"
  | unexpectedType kind index column =>
    "Invalid column type " ++ kind.name ++ " at index: " ++ toString index ++ ", name: " ++ column
  | transactionOpen => "cannot start a transaction within a transaction"
  | noTransaction action => "cannot " ++ action ++ " - no transaction is active"
  | notADatabase => "file is not a database"

/-- The general class of an error, for those that have one beside their message. -/
def StoreError.class? : StoreError → Option String
  | noSuchTable _ | patternTooLong | tooDeep | tooManySlots =>
    some "Error code 1: SQL error or missing database"
  | notADatabase => some "Error code 26: File opened that is not a database file"
  | _ => none

/-- A channel as it is stored. -/
structure ChannelRecord where
  id : ChannelId
  name : TextCell
  owner : TextCell
deriving DecidableEq, Repr

/-- A property or a tag as it is stored. -/
structure PropertyRecord where
  channel : Option ChannelId
  name : TextCell
  value : TextCell
  owner : TextCell
deriving DecidableEq, Repr

/-- The rules that tables enforce. -/
inductive Schema
  | reference
  /-- No rules; whether the properties of a channel are found by an index. -/
  | unconstrained (indexed : Bool)
deriving DecidableEq, Repr

/-- The schema once its indexes are there. -/
def Schema.withIndex : Schema → Schema
  | reference => reference
  | unconstrained _ => unconstrained true

/-- The two tables of a store. -/
structure Tables where
  schema : Schema
  channels : List ChannelRecord
  properties : List PropertyRecord
  /-- The largest identifier that was ever stored, or zero. -/
  lastId : Int
deriving DecidableEq, Repr

namespace Tables

def empty (schema : Schema) : Tables :=
  ⟨schema, [], [], 0⟩

def hasId (tables : Tables) (id : ChannelId) : Bool :=
  tables.channels.any fun channel => channel.id = id

/-- The number for a new channel: one more than any used before, or, without constraints, than
any in use. -/
def nextId (tables : Tables) : Int :=
  match tables.schema with
  | .reference => tables.lastId + 1
  | .unconstrained _ =>
    match (tables.channels.map fun channel => channel.id.toInt).max? with
    | none => 1
    | some largest => largest + 1

/-- The identifier of a channel to insert: the given one or a new one. -/
def chooseId (tables : Tables) : Option ChannelId → Except StoreError ChannelId
  | some id => .ok id
  | none => match ChannelId.ofInt? tables.nextId with
    | some id => .ok id
    | none => .error .noIdLeft

/-- What is wrong with a channel under the schema. -/
def channelProblem? (tables : Tables) (channel : ChannelRecord) : Option StoreError :=
  let constrained := tables.schema = .reference
  if constrained ∧ channel.name = .null then some (.required "channel.name")
  else if constrained ∧ channel.owner = .null then some (.required "channel.owner")
  else if tables.hasId channel.id then some (.notUnique "channel.id")
  else if constrained ∧ tables.channels.any fun known => known.name = channel.name then
    some (.notUnique "channel.name")
  else none

/-- What is wrong with a property under the schema. -/
def propertyProblem? (tables : Tables) (property : PropertyRecord) : Option StoreError :=
  if tables.schema ≠ .reference then none
  else match property.channel with
    | none => some (.required "property.channel_id")
    | some id =>
      if property.name = .null then some (.required "property.property")
      else if tables.properties.any fun known =>
          known.channel = some id && known.name = property.name then
        some (.notUnique "property.channel_id, property.property")
      else if tables.hasId id then none
      else some .unknownChannel

/-- Puts a channel before those with larger identifiers, the order in which they are read. -/
def placeChannel (channel : ChannelRecord) : List ChannelRecord → List ChannelRecord
  | [] => [channel]
  | known :: rest =>
    if channel.id.key < known.id.key then channel :: known :: rest
    else known :: placeChannel channel rest

/-- Inserts a channel, under a new identifier if none is given. -/
def insertChannel (tables : Tables) (id : Option ChannelId) (name owner : Cell) :
    Except StoreError (ChannelId × Tables) := do
  let id ← tables.chooseId id
  let channel : ChannelRecord := ⟨id, name.toTextCell, owner.toTextCell⟩
  match tables.channelProblem? channel with
  | some problem => .error problem
  | none => .ok (id, { tables with
      channels := placeChannel channel tables.channels
      lastId := max tables.lastId id.toInt })

/-- Inserts a property, or a tag if the value is null. -/
def insertProperty (tables : Tables) (channel : Option ChannelId) (name value owner : Cell) :
    Except StoreError Tables :=
  let property : PropertyRecord :=
    ⟨channel, name.toTextCell, value.toTextCell, owner.toTextCell⟩
  match tables.propertyProblem? property with
  | some problem => .error problem
  | none => .ok { tables with properties := tables.properties ++ [property] }

/-- Deletes a channel; under the reference schema its properties go with it. -/
def deleteChannel (tables : Tables) (id : ChannelId) : Tables :=
  { tables with
    channels := tables.channels.filter fun channel => channel.id ≠ id
    properties := match tables.schema with
      | .reference => tables.properties.filter fun property => property.channel ≠ some id
      | .unconstrained _ => tables.properties }

/-- The tables once their indexes are there. -/
def withIndex (tables : Tables) : Tables :=
  { tables with schema := tables.schema.withIndex }

end Tables
end Store
end ChannelCatalog
