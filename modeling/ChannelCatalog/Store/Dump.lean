import ChannelCatalog.Json.Record
import ChannelCatalog.Store.Basic

/-!
# Catalogs as text

The tables of a store as a JSON record, which is how a catalog is kept in a file: a record with
the schema, the channels and properties as arrays of their columns, and the last identifier. A
cell of bytes is the array of their numbers.
-/

namespace ChannelCatalog
namespace Store

open Json

def Schema.name : Schema → String
  | reference => "reference"
  | unconstrained false => "unconstrained"
  | unconstrained true => "indexed"

def Schema.ofJson : Decoder Schema
  | document => do
    let name ← text document
    if name = "reference" then return .reference
    else if name = "unconstrained" then return .unconstrained false
    else if name = "indexed" then return .unconstrained true
    else throw (.invalidType ("string " ++ Text.quoted name) "a schema")

namespace TextCell

def toJson : TextCell → Document
  | null => .null
  | text content => .text content
  | blob bytes => .array (bytes.map fun byte => .int byte.toNat)

def byte : Decoder UInt8 :=
  fun document => (integerAs "u8" 0 255 document).map fun n => UInt8.ofNat n.toNat

def ofJson : Decoder TextCell
  | .null => .ok null
  | .array items => (decodeItems byte items).map blob
  | document => (Json.text document).map text

end TextCell

namespace ChannelRecord

def toJson (channel : ChannelRecord) : Document :=
  .array [channel.id.toJson, channel.name.toJson, channel.owner.toJson]

def ofJson : Decoder ChannelRecord :=
  listOf .ok >=> fun items => do
    let shape := "a channel"
    let (id, items) ← nextItem shape 0 ChannelId.ofJson items
    let (name, items) ← nextItem shape 1 TextCell.ofJson items
    let (owner, items) ← nextItem shape 2 TextCell.ofJson items
    noMoreItems items
    return { id, name, owner }

end ChannelRecord

namespace PropertyRecord

def toJson (property : PropertyRecord) : Document :=
  .array [(property.channel.map ChannelId.toJson).getD .null, property.name.toJson,
    property.value.toJson, property.owner.toJson]

def ofJson : Decoder PropertyRecord :=
  listOf .ok >=> fun items => do
    let shape := "a property"
    let (channel, items) ← nextItem shape 0 (orNull ChannelId.ofJson) items
    let (name, items) ← nextItem shape 1 TextCell.ofJson items
    let (value, items) ← nextItem shape 2 TextCell.ofJson items
    let (owner, items) ← nextItem shape 3 TextCell.ofJson items
    noMoreItems items
    return { channel, name, value, owner }

end PropertyRecord

namespace Tables

def toJson (tables : Tables) : Document :=
  .record [("schema", .text tables.schema.name),
    ("channels", .array (tables.channels.map ChannelRecord.toJson)),
    ("properties", .array (tables.properties.map PropertyRecord.toJson)),
    ("last_id", .int tables.lastId)]

def ofJson : Decoder Tables
  | .object members => do
    let members ← memberTexts members
    let schema ← member "schema" Schema.ofJson members
    let channels ← member "channels" (listOf ChannelRecord.ofJson) members
    let properties ← member "properties" (listOf PropertyRecord.ofJson) members
    let lastId ← member "last_id" signedWord members
    return { schema, channels, properties, lastId }
  | document => mismatch "a catalog" document

/-- The text of a catalog file. -/
def toText (tables : Tables) : String :=
  tables.toJson.toText ++ "\n"

/-- The tables of a catalog file, if the text is one. -/
def ofText? (content : String) : Option Tables :=
  match read ofJson content with
  | .ok tables => some tables
  | .error _ => none

end Tables
end Store
end ChannelCatalog
