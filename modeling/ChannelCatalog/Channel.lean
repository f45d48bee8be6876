import ChannelCatalog.Text.Lowercase

/-!
# Channels

The rows that a search returns, and the channels they describe. A row joins a channel to one of
its properties; a tag is a property without a value.
-/

namespace ChannelCatalog

open Text (lowercase)

/-- A channel joined to one of its properties, or to none. -/
structure Row where
  channelName : String
  channelOwner : String
  propertyName : Option String
  propertyValue : Option String
  propertyOwner : Option String
deriving DecidableEq, Repr

/-- Whether a row carries a tag: a property name and no value. -/
def Row.isTag (row : Row) : Bool :=
  row.propertyName.isSome && row.propertyValue.isNone

/-- A named value of a channel. -/
structure Property where
  name : String
  value : String
  owner : Option String
deriving DecidableEq, Repr

/-- A label of a channel. -/
structure Tag where
  name : String
  owner : Option String
deriving DecidableEq, Repr

/-- A channel with its properties and tags. -/
structure Channel where
  name : String
  owner : String
  properties : List Property
  tags : List Tag
deriving DecidableEq, Repr

namespace Channel

/-- The value of the first property with a name, letter case ignored. -/
def property? (channel : Channel) (name : String) : Option String :=
  (channel.properties.find? fun p => lowercase p.name = lowercase name).map Property.value

/-- Whether there is a tag with a name, letter case ignored. -/
def hasTag (channel : Channel) (name : String) : Bool :=
  channel.tags.any fun t => lowercase t.name = lowercase name

/-- The channel of a row, with what else the row carries put before the given properties and
tags. -/
def ofRow (row : Row) (properties : List Property) (tags : List Tag) : Channel :=
  match row.propertyName, row.propertyValue with
  | some name, some value =>
    ⟨row.channelName, row.channelOwner, ⟨name, value, row.propertyOwner⟩ :: properties, tags⟩
  | some name, none =>
    ⟨row.channelName, row.channelOwner, properties, ⟨name, row.propertyOwner⟩ :: tags⟩
  | none, _ => ⟨row.channelName, row.channelOwner, properties, tags⟩

/-- One channel for each run of consecutive rows with one channel name. Its owner is that of
the first row of the run. -/
def groupRows : List Row → List Channel
  | [] => []
  | row :: rest =>
    match groupRows rest with
    | next :: others =>
      if next.name = row.channelName then ofRow row next.properties next.tags :: others
      else ofRow row [] [] :: next :: others
    | [] => [ofRow row [] []]

end Channel
end ChannelCatalog
