import ChannelCatalog.Config
import ChannelCatalog.Files
import ChannelCatalog.Location

/-!
# Catalogs

Finding the catalog that a text names. A catalog that its location places in no file is new and
private. One that is in a file is found there, and with access to create it a missing file is
made, empty at first.
-/

namespace ChannelCatalog

/-- Why a catalog is not opened. -/
inductive OpenError
  | location (error : LocationError)
  | cannotOpen (path : String)
  /-- The name of the file is too long for one beside it. -/
  | cannotKeepJournal
  | unreadable
  | readOnly
  | store (error : Store.StoreError)
deriving DecidableEq, Repr

namespace OpenError

def message : OpenError → String
  | location error => error.message
  | cannotOpen path => "unable to open database file: " ++ path
  | cannotKeepJournal => "unable to open database file"
  | unreadable => "disk I/O error"
  | readOnly => "attempt to write a readonly database"
  | store error => error.message

/-- The general class of an error, if it has one beside its message. -/
def class? : OpenError → Option String
  | location error@(.nulByte _) => some error.message
  | location (.forbiddenAccess _) => some "Error code 3: Access permission denied"
  | location _ => some "Error code 1: SQL error or missing database"
  | cannotOpen _ | cannotKeepJournal => some "Error code 14: Unable to open the database file"
  | unreadable => some "Error code 10: Some kind of disk I/O error occurred"
  | readOnly => some "Error code 8: Attempt to write a readonly database"
  | store error => error.class?

end OpenError

/-- A catalog that has been found. -/
structure Catalog where
  /-- Where it is kept, if it is in a file. -/
  place : Option Place
  file : File
  /-- Whether it may not be changed. -/
  readOnly : Bool
deriving DecidableEq, Repr

/-- Whether the catalog at a location is private: temporary, or in memory without a name. -/
def Location.isPrivate (location : Location) (access : Access) : Bool :=
  location.path = [] || location.path = Text.encode Config.memoryPath || access = .memory

namespace Catalog

/-- The longest name of a catalog in memory. -/
def maxMemoryLength : Nat := 1016

/-- What a journal's name adds to that of its catalog. -/
def journalSuffix : FileName := Text.encode "-journal"

/-- A new catalog that is in no file. -/
def unkept (readOnly : Bool) : Catalog :=
  ⟨none, .text "", readOnly⟩

/-- Whether the file of the catalog can have a journal beside it. -/
def canKeepJournal (catalog : Catalog) : Bool :=
  match catalog.place.bind List.getLast? with
  | some name => name.length + journalSuffix.length ≤ FileName.maxLength
  | none => true

/-- Finds the catalog at a location among the files, and creates a file for it if that is
allowed; the files are those afterwards. -/
def findInFiles (files : Files) (path : String) (location : Location) (access : Access) :
    Except OpenError (Catalog × Files) := do
  let some place := files.catalogPlace? location.path | throw (.cannotOpen path)
  if let some model := location.model? then
    if let .error _ := files.findPath model then throw .unreadable
  let readOnly : Bool := access = .read ∨ location.isImmutable
  match files.find place with
  | some .directory => throw (if access = .read then .unreadable else .cannotOpen path)
  | some file => return (⟨place, file, readOnly⟩, files)
  | none =>
    if access = .create ∧ files.canCreate place then
      return (⟨place, .text "", readOnly⟩, files.put place (.text ""))
    else throw (.cannotOpen path)

/-- Finds the catalog that a text names; the files are those afterwards. -/
def find (files : Files) (path : String) (access : Access) :
    Except OpenError (Catalog × Files) := do
  let location ← (Location.ofText path).mapError .location
  let (access, keeping) ← (Terms.settle access location).mapError .location
  if location.isPrivate access then return (unkept (access = .read), files)
  match keeping with
  | .inMemory =>
    if maxMemoryLength < location.path.length then throw (.cannotOpen path)
    else return (unkept (access = .read ∨ location.isImmutable), files)
  | .inFile => findInFiles files path location access

end Catalog
end ChannelCatalog
