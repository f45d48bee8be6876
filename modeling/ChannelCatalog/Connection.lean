import ChannelCatalog.Catalog
import ChannelCatalog.Store.Session

/-!
# Connections to catalogs

Opening the catalog of a configuration. Opening with write access creates a catalog that is
missing and the tables that it lacks. Opening for reading finds out only at the first query that
a file is no catalog. How long a connection waits is not modelled here (see `ofConfig`).
-/

namespace ChannelCatalog

/-- A connection to a catalog. -/
inductive Connection
  | store (state : Store.State)
  /-- A file opened for reading that is no catalog. -/
  | notADatabase
deriving DecidableEq, Repr

namespace Connection

/-- The connection as an executor of searches. -/
def executor : Connection → Executor Id Store.StoreError
  | .store state => state.executor
  | .notADatabase => ⟨fun _ => .error .notADatabase, fun _ => .error .notADatabase⟩

def search (connection : Connection) (criteria : Criteria) :
    Except (SearchError Store.StoreError) Outcome :=
  Id.run (criteria.search connection.executor)

/-- A connection to the given tables. Every connection folds all of Unicode. -/
def toTables (tables : Option Store.Tables) : Connection :=
  .store { Store.State.catalog with tables }

/-- A connection for reading a file. -/
def toFile (file : File) : Connection :=
  match file.tables with
  | .ok tables => .toTables tables
  | .error _ => .notADatabase

/-- A connection to a catalog that is given the tables that it lacks; the files are those
afterwards. -/
def withTables (files : Files) (catalog : Catalog) : Except OpenError Connection × Files :=
  match catalog.file.tables with
  | .error error => (.error (.store error), files)
  | .ok (some tables) => (.ok (.toTables tables), files)
  | .ok none =>
    if catalog.readOnly then (.error .readOnly, files)
    else if ¬ catalog.canKeepJournal then (.error .cannotKeepJournal, files)
    else
      let tables := Store.Tables.empty .reference
      (.ok (.toTables (some tables)),
        catalog.place.elim files fun place => files.put place (.catalog tables))

/-- Opens the catalog of a configuration; the files are those afterwards. The time that the
connection waits for a catalog in use is left out, and with it that a connection cannot be told to
wait longer than 2147483647 ms: the timeout of a configuration may be longer, and opening then
breaks off without an `OpenError`. -/
def ofConfig (files : Files) (config : Config) : Except OpenError Connection × Files :=
  if config.isInMemory then (.ok (.store .catalog), files)
  else
    match Catalog.find files config.path (if config.readOnly then .read else .create) with
    | .error error => (.error error, files)
    | .ok (catalog, files) =>
      if config.readOnly then (.ok (.toFile catalog.file), files)
      else withTables files catalog

end Connection
end ChannelCatalog
