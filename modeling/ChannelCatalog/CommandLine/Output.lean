import ChannelCatalog.Json.Record
import ChannelCatalog.Search

/-!
# Output of a search

A result is written as lines of five fields with tabs between them, or as JSON channels. Text
goes to a sink that may take only so many bytes.
-/

namespace ChannelCatalog
namespace CommandLine

/-- Where text is written: the number of bytes it takes, or nothing if it takes any number. -/
abbrev Sink := Option Nat

/-- Whether a sink takes all of a text. -/
def Sink.takes (sink : Sink) (text : String) : Bool :=
  match sink with
  | none => true
  | some limit => text.utf8ByteSize ≤ limit

/-- What a sink says when it takes no more. -/
def sinkFullMessage : String := "sink full"

/-- The fields of a row; an absent one is empty. -/
def rowFields (row : Row) : List String :=
  [row.channelName, row.channelOwner, row.propertyName.getD "", row.propertyValue.getD "",
    row.propertyOwner.getD ""]

/-- A row as a line. -/
def rowLine (row : Row) : String :=
  String.intercalate "\t" (rowFields row) ++ "\n"

/-- Rows as lines. -/
def rowsText (rows : List Row) : String :=
  String.join (rows.map rowLine)

/-- Channels as an array of JSON objects, without a line break at the end. -/
def channelsText (channels : List Channel) : String :=
  (Json.Document.array (channels.map Channel.toJson)).toPrettyText

/-- Why a result could not be written. -/
inductive WriteError
  /-- Not all of the text was taken. -/
  | text
  /-- Only the line break at the end was not taken. -/
  | lineBreak
deriving DecidableEq, Repr

/-- Writes rows as lines. -/
def writeRows (sink : Sink) (rows : List Row) : Except WriteError String :=
  if sink.takes (rowsText rows) then .ok (rowsText rows) else .error .text

/-- Writes the channels of an outcome as JSON. -/
def writeJson (sink : Sink) (outcome : Outcome) : Except WriteError String :=
  let array := channelsText outcome.channels
  if sink.takes (array ++ "\n") then .ok (array ++ "\n")
  else if sink.takes array then .error .lineBreak
  else .error .text

/-- What is said of a failure to write JSON. -/
def WriteError.jsonChain : WriteError → List String
  | text => ["Failed to encode channels", sinkFullMessage]
  | lineBreak => [sinkFullMessage]

/-- What is said of a failure to write rows. -/
def rowsChain : List String :=
  ["Failed to write rows", sinkFullMessage]

end CommandLine
end ChannelCatalog
