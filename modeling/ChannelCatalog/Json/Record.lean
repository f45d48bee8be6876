import ChannelCatalog.Channel
import ChannelCatalog.ChannelId
import ChannelCatalog.Json.Decoder
import ChannelCatalog.Request

/-!
# Records as JSON

How identifiers, rows, channels and requests are written as documents, and how they are decoded
from them. An owner that is absent is left out of a property or a tag, and the fields of a row
that are absent are null. Lists of properties and tags may be left out of a channel.
-/

namespace ChannelCatalog

open Json

namespace ChannelId

def toJson (id : ChannelId) : Document :=
  .int id.toInt

def ofJson : Decoder ChannelId :=
  fun document => (signedWord document).map fun n => ⟨Int64.ofInt n⟩

end ChannelId

/-- A text, or null where there is none. -/
def optionalText : Option String → Document
  | some content => .text content
  | none => .null

/-- The member for an owner, which is left out when there is none. -/
def ownerMember (owner : Option String) : List (String × Document) :=
  (owner.map fun content => ("owner", Document.text content)).toList

namespace Row

def toJson (row : Row) : Document :=
  .record [("channel_name", .text row.channelName), ("channel_owner", .text row.channelOwner),
    ("property_name", optionalText row.propertyName),
    ("property_value", optionalText row.propertyValue),
    ("property_owner", optionalText row.propertyOwner)]

def fields : List (String × Decoder Unit) :=
  [("channel_name", checked text), ("channel_owner", checked text),
    ("property_name", checked (orNull text)), ("property_value", checked (orNull text)),
    ("property_owner", checked (orNull text))]

def ofMembers (members : List (String × Document)) : Except DecodeError Row := do
  let channelName ← member "channel_name" text members
  let channelOwner ← member "channel_owner" text members
  let propertyName ← memberOr "property_name" none (orNull text) members
  let propertyValue ← memberOr "property_value" none (orNull text) members
  let propertyOwner ← memberOr "property_owner" none (orNull text) members
  return { channelName, channelOwner, propertyName, propertyValue, propertyOwner }

def ofItems (items : List Document) : Except DecodeError Row := do
  let shape := recordShape "ChannelRow" 5
  let (channelName, items) ← nextItem shape 0 text items
  let (channelOwner, items) ← nextItem shape 1 text items
  let (propertyName, items) ← nextItem shape 2 (orNull text) items
  let (propertyValue, items) ← nextItem shape 3 (orNull text) items
  let (propertyOwner, items) ← nextItem shape 4 (orNull text) items
  noMoreItems items
  return { channelName, channelOwner, propertyName, propertyValue, propertyOwner }

def ofJson : Decoder Row :=
  recordOf "ChannelRow" fields ofMembers ofItems

end Row

namespace Property

def toJson (property : Property) : Document :=
  .record ([("name", .text property.name), ("value", .text property.value)] ++
    ownerMember property.owner)

def fields : List (String × Decoder Unit) :=
  [("name", checked text), ("value", checked text), ("owner", checked (orNull text))]

def ofMembers (members : List (String × Document)) : Except DecodeError Property := do
  let name ← member "name" text members
  let value ← member "value" text members
  let owner ← memberOr "owner" none (orNull text) members
  return { name, value, owner }

def ofItems (items : List Document) : Except DecodeError Property := do
  let shape := recordShape "Property" 3
  let (name, items) ← nextItem shape 0 text items
  let (value, items) ← nextItem shape 1 text items
  let (owner, items) ← nextItemOr none (orNull text) items
  noMoreItems items
  return { name, value, owner }

def ofJson : Decoder Property :=
  recordOf "Property" fields ofMembers ofItems

end Property

namespace Tag

def toJson (tag : Tag) : Document :=
  .record ([("name", .text tag.name)] ++ ownerMember tag.owner)

def fields : List (String × Decoder Unit) :=
  [("name", checked text), ("owner", checked (orNull text))]

def ofMembers (members : List (String × Document)) : Except DecodeError Tag := do
  let name ← member "name" text members
  let owner ← memberOr "owner" none (orNull text) members
  return { name, owner }

def ofItems (items : List Document) : Except DecodeError Tag := do
  let (name, items) ← nextItem (recordShape "Tag" 2) 0 text items
  let (owner, items) ← nextItemOr none (orNull text) items
  noMoreItems items
  return { name, owner }

def ofJson : Decoder Tag :=
  recordOf "Tag" fields ofMembers ofItems

end Tag

namespace Channel

def toJson (channel : Channel) : Document :=
  .record [("name", .text channel.name), ("owner", .text channel.owner),
    ("properties", .array (channel.properties.map Property.toJson)),
    ("tags", .array (channel.tags.map Tag.toJson))]

def fields : List (String × Decoder Unit) :=
  [("name", checked text), ("owner", checked text),
    ("properties", checked (listOf Property.ofJson)), ("tags", checked (listOf Tag.ofJson))]

def ofMembers (members : List (String × Document)) : Except DecodeError Channel := do
  let name ← member "name" text members
  let owner ← member "owner" text members
  let properties ← memberOr "properties" [] (listOf Property.ofJson) members
  let tags ← memberOr "tags" [] (listOf Tag.ofJson) members
  return { name, owner, properties, tags }

def ofItems (items : List Document) : Except DecodeError Channel := do
  let shape := recordShape "Channel" 4
  let (name, items) ← nextItem shape 0 text items
  let (owner, items) ← nextItem shape 1 text items
  let (properties, items) ← nextItemOr [] (listOf Property.ofJson) items
  let (tags, items) ← nextItemOr [] (listOf Tag.ofJson) items
  noMoreItems items
  return { name, owner, properties, tags }

def ofJson : Decoder Channel :=
  recordOf "Channel" fields ofMembers ofItems

end Channel

namespace Entry

/-- An entry is a pair of its key and the list of its values. -/
def toJson (entry : Entry) : Document :=
  .array [.text entry.key, .array (entry.values.map Document.text)]

def ofJson : Decoder Entry :=
  fun document => (pairOf text (listOf text) document).map fun (key, values) => { key, values }

end Entry

namespace Request

def toJson (request : Request) : Document :=
  .record [("entries", .array (request.entries.map Entry.toJson))]

def fields : List (String × Decoder Unit) :=
  [("entries", checked (listOf Entry.ofJson))]

def ofMembers (members : List (String × Document)) : Except DecodeError Request := do
  let entries ← member "entries" (listOf Entry.ofJson) members
  return { entries }

def ofItems (items : List Document) : Except DecodeError Request := do
  let (entries, items) ← nextItem (recordShape "MatchRequest" 1) 0 (listOf Entry.ofJson) items
  noMoreItems items
  return { entries }

/-- Entries are taken as they stand, also when keys repeat. -/
def ofJson : Decoder Request :=
  recordOf "MatchRequest" fields ofMembers ofItems

end Request
end ChannelCatalog
