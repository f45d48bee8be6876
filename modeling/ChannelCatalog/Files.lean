import ChannelCatalog.Store.Basic
import ChannelCatalog.Text.Bytes

/-!
# Files

Files by the names that lead to them from the root. A path is read in two ways. To read a text
its names are followed one by one, and each but the last must lead to a directory. To keep a
catalog the path is made plain first: a name and the `..` after it cancel, even if nothing has
that name.
-/

namespace ChannelCatalog

/-- The bytes of a name. -/
abbrev FileName := List UInt8

namespace FileName

/-- The name of a directory in itself. -/
def self : FileName := Text.encode "."

/-- The name of what is above a directory. -/
def parent : FileName := Text.encode ".."

/-- The longest name that a file can have. -/
def maxLength : Nat := 255

/-- The divider of names in a path. -/
def slash : UInt8 := '/'.toUInt8

end FileName

/-- The names that lead to a file from the root. -/
abbrev Place := List FileName

namespace Place

/-- The place that a name leads to. There is nothing above the root. -/
def enter (place : Place) (name : FileName) : Place :=
  if name = [] ∨ name = FileName.self then place
  else if name = FileName.parent then place.dropLast
  else place ++ [name]

/-- The places that names lead to, one after the other. -/
def visited (place : Place) : List FileName → List Place
  | [] => [place]
  | name :: rest => place :: (place.enter name).visited rest

/-- The length of the path that names a place and goes no detour. -/
def pathLength (place : Place) : Nat :=
  place.foldl (fun length name => length + name.length + 1) 0

end Place

/-- What is at a place. -/
inductive File
  | text (content : String)
  /-- Bytes that are no text. -/
  | binary
  | catalog (tables : Store.Tables)
  | directory
deriving DecidableEq, Repr

/-- The tables that a store finds in a file; it takes a file of at most one byte for one without
tables. -/
def File.tables : File → Except Store.StoreError (Option Store.Tables)
  | .text content => if content.utf8ByteSize ≤ 1 then .ok none else .error .notADatabase
  | .catalog tables => .ok (some tables)
  | .binary | .directory => .error .notADatabase

/-- The files that are known, and the directory that paths start from. -/
structure Files where
  here : Place
  known : List (Place × File)
deriving DecidableEq, Repr

/-- Why no text is read. -/
inductive ReadFailure
  | nulInPath
  | nameTooLong
  | notFound
  | notADirectory
  | isADirectory
  | notText
deriving DecidableEq, Repr

def ReadFailure.message : ReadFailure → String
  | nulInPath => "file name contained an unexpected NUL byte"
  | nameTooLong => "File name too long (os error 36)"
  | notFound => "No such file or directory (os error 2)"
  | notADirectory => "Not a directory (os error 20)"
  | isADirectory => "Is a directory (os error 21)"
  | notText => "stream did not contain valid UTF-8"

namespace Files

/-- What is at a place. All that leads to the starting point are directories. -/
def find (files : Files) (place : Place) : Option File :=
  if place.isPrefixOf files.here then some .directory else files.known.lookup place

/-- Puts a file in the place of the one that is there, if there is any. -/
def put (files : Files) (place : Place) (file : File) : Files :=
  { files with known := (place, file) :: files.known.filter fun known => known.1 ≠ place }

/-- The place that a path starts from. -/
def start (files : Files) (path : List UInt8) : Place :=
  if path.head? = some FileName.slash then [] else files.here

/-- The places that a path leads through. -/
def visited (files : Files) (path : List UInt8) : List Place :=
  (files.start path).visited (Text.splitAll FileName.slash path)

/-- Follows names from a place. -/
def follow (files : Files) (place : Place) : List FileName → Except ReadFailure File
  | [] =>
    match files.find place with
    | some file => .ok file
    | none => .error .notFound
  | name :: rest =>
    match files.find place with
    | some .directory =>
      if FileName.maxLength < name.length then .error .nameTooLong
      else files.follow (place.enter name) rest
    | some _ => .error .notADirectory
    | none => .error .notFound

/-- The longest path that is followed. -/
def maxPathLength : Nat := 4095

/-- Finds the file at the end of a path. The empty path leads nowhere. -/
def findPath (files : Files) (path : List UInt8) : Except ReadFailure File :=
  if path = [] then .error .notFound
  else if path.contains 0 then .error .nulInPath
  else if maxPathLength < path.length then .error .nameTooLong
  else files.follow (files.start path) (Text.splitAll FileName.slash path)

/-- Reads a file as text. -/
def readText (files : Files) (path : String) : Except ReadFailure String := do
  match ← files.findPath (Text.encode path) with
  | .text content => .ok content
  | .binary | .catalog _ => .error .notText
  | .directory => .error .isADirectory

/-- The longest path of a place on the way to a catalog. -/
def maxPlaceLength : Nat := 511

/-- The longest path of a catalog: its journal has a name that is eight bytes longer. -/
def maxCatalogLength : Nat := 504

/-- Goes on from a place on the way to a catalog. There need not be anything at the new place,
but it must be possible that there is. -/
def enterPlain? (files : Files) (place : Place) (name : FileName) : Option Place :=
  let next := place.enter name
  if next.length ≤ place.length then some next
  else if maxPlaceLength < next.pathLength then none
  else match files.follow [] next with
    | .ok _ | .error .notFound => some next
    | .error _ => none

/-- The place of the catalog that a path names. -/
def catalogPlace? (files : Files) (path : List UInt8) : Option Place := do
  let place ← (Text.splitAll FileName.slash path).foldlM files.enterPlain? (files.start path)
  if place = [] ∨ maxCatalogLength < place.pathLength then none else some place

/-- Whether a file can be made at a place where there is none. -/
def canCreate (files : Files) (place : Place) : Bool :=
  files.find place.dropLast = some .directory

end Files
end ChannelCatalog
