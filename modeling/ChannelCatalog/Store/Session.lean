import ChannelCatalog.Search
import ChannelCatalog.Store.Evaluate
import ChannelCatalog.Store.Limits

/-!
# Sessions

A store changes by steps: inserts and deletes, transactions, and the installation of tables or
of a case folding. A step that fails leaves no store behind, so the session goes on from the
store before it, or from the beginning of the transaction if no identifier was left. Rolling
back restores the tables as they were when the transaction began; the folding belongs to the
connection and stays.
-/

namespace ChannelCatalog

namespace Store

/-- A store in use. -/
structure State where
  /-- The tables, if there are any. -/
  tables : Option Tables
  folding : Folding
  /-- The tables at the beginning of the open transaction. -/
  saved : Option (Option Tables)
deriving DecidableEq, Repr

namespace State

/-- A store with the reference schema that folds all of Unicode. -/
def catalog : State := ⟨some (.empty .reference), .unicode, none⟩

/-- A store with the reference schema that folds ASCII. -/
def plain : State := ⟨some (.empty .reference), .ascii, none⟩

/-- A store without tables. -/
def bare : State := ⟨none, .ascii, none⟩

/-- A store with unconstrained tables. -/
def loose : State := ⟨some (.empty (.unconstrained false)), .ascii, none⟩

/-- The tables, where a statement names the given one. -/
def tablesFor (state : State) (table : String) : Except StoreError Tables :=
  match state.tables with
  | some tables => .ok tables
  | none => .error (.noSuchTable table)

def withTables (state : State) (tables : Tables) : State :=
  { state with tables := some tables }

/-- Answers a query for identifiers. Its statement is read before the table is looked for. -/
def fetchIds (state : State) (query : IdQuery) : Except StoreError (List ChannelId) := do
  Limits.readIdQuery query
  let tables ← state.tablesFor "property"
  tables.fetchIds state.folding query

/-- Answers a query for rows. The comparison that joins the tables is added to its restrictions
once the tables are found. -/
def fetchRows (state : State) (query : RowQuery) : Except StoreError (List Row) := do
  let depth ← Limits.readRowQuery query
  let tables ← state.tablesFor "channel"
  Limits.readJoin query depth
  tables.fetchRows query

/-- The store as an executor of searches. -/
def executor (state : State) : Executor Id StoreError where
  fetchIds query := state.fetchIds query
  fetchRows query := state.fetchRows query

/-- Runs a search on the store. -/
def search (state : State) (criteria : Criteria) : Except (SearchError StoreError) Outcome :=
  Id.run (criteria.search state.executor)

end State

/-- A step of a session. -/
inductive Step
  | insertChannel (id : Option ChannelId) (name owner : Cell)
  | insertProperty (channel : Option ChannelId) (name value owner : Cell)
  | deleteChannel (id : ChannelId)
  | begin
  | commit
  | rollback
  | hasSchema
  | initSchema
  | registerFunctions
  | search (criteria : Criteria)
deriving DecidableEq, Repr

/-- What a step that did not fail answers. -/
inductive Answer
  | done
  | number (value : Int)
  | flag (value : Bool)
  | search (result : Except (SearchError StoreError) Outcome)

/-- The store when the open transaction, if there is one, has been rolled back. -/
def State.rolledBack (state : State) : State :=
  match state.saved with
  | some tables => { state with tables := tables, saved := none }
  | none => state

/-- Takes a step: its answer and the store after it. -/
def State.step (state : State) : Step → Except StoreError (Answer × State)
  | .insertChannel id name owner => do
    let tables ← state.tablesFor "channel"
    let (chosen, changed) ← tables.insertChannel id name owner
    return (.number chosen.toInt, state.withTables changed)
  | .insertProperty channel name value owner => do
    let tables ← state.tablesFor "property"
    let changed ← tables.insertProperty channel name value owner
    return (.number 1, state.withTables changed)
  | .deleteChannel id => do
    let tables ← state.tablesFor "channel"
    return (.number (if tables.hasId id then 1 else 0), state.withTables (tables.deleteChannel id))
  | .begin =>
    if state.saved.isSome then .error .transactionOpen
    else .ok (.done, { state with saved := some state.tables })
  | .commit =>
    if state.saved.isSome then .ok (.done, { state with saved := none })
    else .error (.noTransaction "commit")
  | .rollback =>
    if state.saved.isSome then .ok (.done, state.rolledBack)
    else .error (.noTransaction "rollback")
  | .hasSchema => .ok (.flag state.tables.isSome, state)
  | .initSchema =>
    .ok (.done, state.withTables (state.tables.elim (.empty .reference) Tables.withIndex))
  | .registerFunctions => .ok (.done, { state with folding := .unicode })
  | .search criteria => .ok (.search (state.search criteria), state)

/-- The store after a step. A step that fails changes nothing, but where it fails because no
identifier is left, the open transaction is rolled back. -/
def State.after (state : State) (step : Step) : State :=
  match state.step step with
  | .ok (_, next) => next
  | .error .noIdLeft => state.rolledBack
  | .error _ => state

/-- The answers to the steps of a session. -/
def State.run (state : State) : List Step → List (Except StoreError Answer)
  | [] => []
  | step :: rest => (state.step step).map Prod.fst :: (state.after step).run rest

end Store
end ChannelCatalog
