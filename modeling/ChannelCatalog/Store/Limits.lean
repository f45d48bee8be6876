import ChannelCatalog.Query
import ChannelCatalog.Store.Basic

/-!
# Limits of statements

A store reads a statement from left to right and refuses it at the first place where it has too
many slots or an expression that is nested too deep. A chain of `OR` nests to the left, so that
each further operand makes it deeper by one. The depth of the smaller tests is fixed by their
form: a column with its table counts two, a function or an operator one more than what it is
applied to. What a set is made from counts from the root of the restrictions it stands in.
-/

namespace ChannelCatalog
namespace Store
namespace Limits

/-- The deepest expression that is read. -/
def maxDepth : Nat := 1000

/-- The number of slots that a statement may have. -/
def maxSlots : Nat := 32766

/-- What has been read of a statement: its slots, and the depth of the last expression. -/
structure Extent where
  slots : Nat
  depth : Nat
deriving DecidableEq, Repr

/-- The depth of a slot. -/
def slotDepth : Nat := 1

/-- The depth of `column LIKE slot`. -/
def likeDepth : Nat := 3

/-- The depth of a test for null, or for the contrary. -/
def nullTestDepth : Nat := 3

/-- The depth of a comparison of a folded column with a folded slot. -/
def comparisonDepth : Nat := 4

/-- The depth of a test whether a column is in a set. -/
def membershipDepth : Nat := 3

/-- The depth of the comparison that joins the tables. -/
def joinDepth : Nat := 3

/-- Takes another slot. -/
def takeSlot (slots : Nat) : Except StoreError Nat :=
  if slots < maxSlots then .ok (slots + 1) else .error .tooManySlots

/-- The depth of an operator applied to operands of the given depths. -/
def operator (left right : Nat) : Except StoreError Nat :=
  if max left right < maxDepth then .ok (max left right + 1) else .error .tooDeep

/-- Reads the rest of a chain of `LIKE` tests, each with a slot. -/
def readLikes (read : Extent) : List String → Except StoreError Extent
  | [] => .ok read
  | _ :: rest => do
    let slots ← takeSlot read.slots
    let depth ← operator read.depth likeDepth
    readLikes ⟨slots, depth⟩ rest

/-- Reads a chain of `LIKE` tests; where there is none, `other` is the depth of what stands
there. -/
def readPatterns (slots other : Nat) : List String → Except StoreError Extent
  | [] => .ok ⟨slots, other⟩
  | _ :: rest => do readLikes ⟨← takeSlot slots, likeDepth⟩ rest

/-- Reads a clause. -/
def readClause (slots : Nat) : Clause → Except StoreError Extent
  | .property _ patterns => do
    let value ← readPatterns (← takeSlot slots) nullTestDepth patterns
    return ⟨value.slots, ← operator comparisonDepth value.depth⟩
  | .tag _ => do
    let slots ← takeSlot slots
    return ⟨slots, ← operator comparisonDepth nullTestDepth⟩

/-- Reads the rest of a chain of clauses. -/
def readClauses (read : Extent) : List Clause → Except StoreError Extent
  | [] => .ok read
  | clause :: rest => do
    let next ← readClause read.slots clause
    let depth ← operator read.depth next.depth
    readClauses ⟨next.slots, depth⟩ rest

/-- Reads the statement of a query for identifiers. -/
def readIdQuery : IdQuery → Except StoreError Unit
  | .counted [] _ | .tagLike _ => .ok ()
  | .counted (clause :: rest) _ => do
    let read ← readClauses (← readClause 0 clause) rest
    discard (takeSlot read.slots)

/-- The depth of the restrictions in the statement of a query for rows, zero if there are
none. -/
def readRowQuery (query : RowQuery) : Except StoreError Nat := do
  let slots := if query.ids.isSome then 1 else 0
  let named ← readPatterns slots 0 query.names
  match query.ids, query.names with
  | none, _ => return named.depth
  | some _, [] => return membershipDepth
  | some _, _ :: _ => operator membershipDepth named.depth

/-- Puts an expression below the given number of others. -/
def nest (depth above : Nat) : Except StoreError Unit :=
  if above + depth ≤ maxDepth then .ok () else .error .tooDeep

/-- Adds the comparison that joins the tables to restrictions of the given depth. If they hold a
set, its slot stands below all of them. -/
def readJoin (query : RowQuery) (depth : Nat) : Except StoreError Unit := do
  if depth = 0 then return ()
  let joined ← operator depth joinDepth
  if query.ids.isSome then nest slotDepth joined

end Limits
end Store
end ChannelCatalog
