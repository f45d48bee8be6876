import ChannelCatalog.Channel
import ChannelCatalog.Query

/-!
# Searching

A search asks the queries of its criteria one after the other and keeps the channels that every
answer names. It ends early, without a listing, as soon as no channel is left. What answers the
queries is an `Executor`, which may keep a state of its own.
-/

namespace ChannelCatalog

/-- What answers the queries of a search, in the monad `m` and with failures of type `ε`. -/
structure Executor (m : Type → Type) (ε : Type) where
  fetchIds : IdQuery → m (Except ε (List ChannelId))
  fetchRows : RowQuery → m (Except ε (List Row))

/-- What was being asked when a search failed. -/
inductive Stage
  | propertyMatch
  | tagMatch
  | channelQuery
deriving DecidableEq, Repr

namespace Stage

def name : Stage → String
  | propertyMatch => "PropertyMatch"
  | tagMatch => "TagMatch"
  | channelQuery => "ChannelQuery"

def description : Stage → String
  | propertyMatch => "getting ids in property match query"
  | tagMatch => "getting ids in tag match query"
  | channelQuery => "running channels query"

end Stage

/-- The stage to which a query for identifiers belongs. -/
def IdQuery.stage : IdQuery → Stage
  | .counted _ _ => .propertyMatch
  | .tagLike _ => .tagMatch

/-- A failure of the executor, with what was being asked. -/
structure SearchError (ε : Type) where
  stage : Stage
  cause : ε
deriving DecidableEq, Repr

/-- The message for a failure whose cause reads as given. -/
def Stage.failure (stage : Stage) (cause : String) : String :=
  "query execution failed while " ++ stage.description ++ ": " ++ cause

/-- How properties and tags restrict the channels to list. -/
inductive Restriction
  | unrestricted
  | only (ids : IdSet)
  /-- No channel fits, and none is to be listed. -/
  | noMatch

/-- The result of a search that did not fail. -/
inductive Outcome
  /-- Properties and tags fit no channel, and no rows were asked for. -/
  | empty
  /-- The rows of the listing, of which there may be none. -/
  | rows (rows : List Row)
deriving DecidableEq, Repr

namespace Outcome

def toRows : Outcome → List Row
  | .empty => []
  | .rows found => found

def isEmpty (outcome : Outcome) : Bool :=
  outcome.toRows.isEmpty

def channels (outcome : Outcome) : List Channel :=
  Channel.groupRows outcome.toRows

end Outcome

/-- The channels in the running set that an answer names; before the first answer all are in. -/
def narrow (running : Option IdSet) (answer : List ChannelId) : IdSet :=
  match running with
  | none => IdSet.ofList answer
  | some ids => ids.inter (IdSet.ofList answer)

variable {m : Type → Type} {ε : Type} [Monad m]

/-- Asks queries in turn, narrowing the running set, until one fails or no channel is left. -/
def resolveFrom (executor : Executor m ε) (running : Option IdSet) :
    List IdQuery → m (Except (SearchError ε) Restriction)
  | [] => return .ok (running.elim .unrestricted .only)
  | query :: rest => do
    match ← executor.fetchIds query with
    | .error cause => return .error ⟨query.stage, cause⟩
    | .ok answer =>
      let left := narrow running answer
      if left.isEmpty then return .ok .noMatch
      else resolveFrom executor (some left) rest

namespace Criteria

/-- How the properties and tags of the criteria restrict the channels. -/
def resolve (criteria : Criteria) (executor : Executor m ε) :
    m (Except (SearchError ε) Restriction) :=
  resolveFrom executor none criteria.idQueries

/-- Lists the rows of channels with the wanted names, among the given ones. -/
def list (criteria : Criteria) (executor : Executor m ε) (ids : Option IdSet) :
    m (Except (SearchError ε) Outcome) := do
  match ← executor.fetchRows (RowQuery.ofNames criteria.names ids) with
  | .error cause => return .error ⟨.channelQuery, cause⟩
  | .ok rows => return .ok (.rows rows)

/-- Runs a search. -/
def search (criteria : Criteria) (executor : Executor m ε) :
    m (Except (SearchError ε) Outcome) := do
  match ← criteria.resolve executor with
  | .error error => return .error error
  | .ok .noMatch => return .ok .empty
  | .ok .unrestricted => criteria.list executor none
  | .ok (.only ids) => criteria.list executor (some ids)

end Criteria
end ChannelCatalog
