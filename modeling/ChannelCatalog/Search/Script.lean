import ChannelCatalog.Search

/-!
# Scripted answers

An executor that answers from a script, whatever is asked, and keeps a record of the statements
issued in its dialect. It serves to observe a search.
-/

namespace ChannelCatalog

/-- A statement that was issued, by the kind of its answer. -/
inductive Issued
  | ids (statement : Sql.Statement)
  | rows (statement : Sql.Statement)
deriving DecidableEq, Repr

/-- The answers to come and the statements issued so far. -/
structure Script (ε : Type) where
  /-- One answer for each query for identifiers; past the end no channel is named. -/
  idAnswers : List (Except ε (List ChannelId))
  rowAnswer : Except ε (List Row)
  issued : List Issued := []

namespace Script

variable {ε : Type}

/-- Notes that a statement was issued. -/
def note (script : Script ε) (statement : Issued) : Script ε :=
  { script with issued := script.issued ++ [statement] }

/-- Answers a query for identifiers. -/
def answerIds (dialect : Sql.Dialect) (query : IdQuery) (script : Script ε) :
    Except ε (List ChannelId) × Script ε :=
  let noted := script.note (.ids (query.fragment.render dialect))
  match script.idAnswers with
  | [] => (.ok [], noted)
  | answer :: later => (answer, { noted with idAnswers := later })

/-- Answers the query for rows. -/
def answerRows (dialect : Sql.Dialect) (query : RowQuery) (script : Script ε) :
    Except ε (List Row) × Script ε :=
  (script.rowAnswer, script.note (.rows (query.fragment.render dialect)))

/-- The executor that reads its answers from the script. -/
def executor (dialect : Sql.Dialect) : Executor (StateM (Script ε)) ε where
  fetchIds query := answerIds dialect query
  fetchRows query := answerRows dialect query

end Script
end ChannelCatalog
