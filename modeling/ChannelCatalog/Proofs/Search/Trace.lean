import ChannelCatalog.Proofs.Search.Narrowing
import ChannelCatalog.Search.Script

/-!
# What a search asks

A search is observed by recording each statement together with its answer, whoever answers.  The
executor may keep any state of its own and answer as it likes; recording does not change what it
does.  Three things may end a search early: a failure, an answer that leaves no channel, and a
failure of the listing.  `ResolveTrace` and `SearchTrace` list these ends with the record that each
of them leaves behind, and the result that goes with it.
-/

namespace ChannelCatalog

/-- A statement that was issued and the answer to it. -/
inductive Exchange (ε : Type)
  | ids (statement : Sql.Statement) (answer : Except ε (List ChannelId))
  | rows (statement : Sql.Statement) (answer : Except ε (List Row))

/-- The statement of an exchange, by the kind of its answer. -/
def Exchange.issued {ε : Type} : Exchange ε → Issued
  | ids statement _ => .ids statement
  | rows statement _ => .rows statement

variable {σ ε : Type}

/-- The executor that does the same and records every exchange in its dialect. -/
def Executor.recorded (executor : Executor (StateM σ) ε) (dialect : Sql.Dialect) :
    Executor (StateM (σ × List (Exchange ε))) ε where
  fetchIds query := fun (state, record) =>
    let (answer, next) := executor.fetchIds query state
    (answer, next, record ++ [.ids (query.fragment.render dialect) answer])
  fetchRows query := fun (state, record) =>
    let (answer, next) := executor.fetchRows query state
    (answer, next, record ++ [.rows (query.fragment.render dialect) answer])

/-! ## The channels named so far -/

/-- Queries for identifiers that were answered, with their answers, in the order of asking. -/
abbrev Answered :=
  List (IdQuery × List ChannelId)

namespace Answered

/-- The exchanges that such answers leave in the record. -/
def exchanges (asked : Answered) (dialect : Sql.Dialect) : List (Exchange ε) :=
  asked.map fun pair => .ids (pair.1.fragment.render dialect) (.ok pair.2)

/-- Every answer names the channel. -/
def Common (asked : Answered) (id : ChannelId) : Prop :=
  ∀ pair ∈ asked, id ∈ pair.2

/-- The running set that goes with the answers: none before the first answer, and later all
channels that they have in common, in ascending order, of which there is at least one. -/
def Restricts (asked : Answered) : Option IdSet → Prop
  | none => asked = []
  | some ids => asked ≠ [] ∧ ids.isEmpty = false ∧
      (ids.toList.map ChannelId.toInt).Pairwise (· < ·) ∧ ∀ id, id ∈ ids ↔ asked.Common id

@[simp] theorem exchanges_nil (dialect : Sql.Dialect) :
    exchanges [] dialect = ([] : List (Exchange ε)) := rfl

@[simp] theorem exchanges_concat (asked : Answered) (dialect : Sql.Dialect) (query : IdQuery)
    (answer : List ChannelId) :
    (exchanges (asked ++ [(query, answer)]) dialect : List (Exchange ε)) =
      exchanges asked dialect ++ [.ids (query.fragment.render dialect) (.ok answer)] := by
  simp [exchanges]

theorem issued_exchanges (asked : Answered) (dialect : Sql.Dialect) :
    (exchanges asked dialect : List (Exchange ε)).map Exchange.issued =
      (asked.map Prod.fst).map fun query => .ids (query.fragment.render dialect) := by
  simp [exchanges, Exchange.issued]

theorem common_concat_iff {asked : Answered} {query : IdQuery} {answer : List ChannelId}
    {id : ChannelId} :
    Common (asked ++ [(query, answer)]) id ↔ asked.Common id ∧ id ∈ answer := by
  simp [Common, or_imp, forall_and]

/-- The running set tells of a channel what the answers tell. -/
theorem Restricts.inRunning_iff {asked : Answered} {running : Option IdSet}
    (h : asked.Restricts running) (id : ChannelId) : InRunning running id ↔ asked.Common id := by
  cases running with
  | none =>
      cases h
      simp [InRunning, Common]
  | some ids =>
      obtain ⟨-, -, -, hcommon⟩ := h
      rw [inRunning_some_iff, hcommon]

/-- Some channel is common to the answers as long as there is a running set for them. -/
theorem Restricts.exists_common {asked : Answered} {running : Option IdSet}
    (h : asked.Restricts running) : ∃ id, asked.Common id := by
  cases running with
  | none =>
      cases h
      exact ⟨⟨0⟩, by simp [Common]⟩
  | some ids =>
      obtain ⟨-, hsome, -, hcommon⟩ := h
      have hmem : ¬ ∀ id, id ∉ ids := by
        rw [← IdSet.isEmpty_eq_true_iff, hsome]
        simp
      obtain ⟨id, hid⟩ := not_forall_not.1 hmem
      exact ⟨id, (hcommon id).1 hid⟩

/-- What an answer leaves of the running set are the channels common to all answers with it. -/
theorem Restricts.mem_narrow_iff {asked : Answered} {running : Option IdSet}
    (h : asked.Restricts running) (query : IdQuery) (answer : List ChannelId) (id : ChannelId) :
    id ∈ narrow running answer ↔ Common (asked ++ [(query, answer)]) id := by
  rw [ChannelCatalog.mem_narrow_iff, h.inRunning_iff, common_concat_iff]

/-- An answer that leaves a channel makes the next running set. -/
theorem Restricts.concat {asked : Answered} {running : Option IdSet}
    (h : asked.Restricts running) (query : IdQuery) {answer : List ChannelId}
    (hsome : (narrow running answer).isEmpty = false) :
    Restricts (asked ++ [(query, answer)]) (some (narrow running answer)) := by
  have hascending : ((narrow running answer).toList.map ChannelId.toInt).Pairwise (· < ·) := by
    rw [List.pairwise_map]
    exact (narrow running answer).ascending.imp Int64.lt_iff_toInt_lt.1
  exact ⟨by simp, hsome, hascending, h.mem_narrow_iff query answer⟩

end Answered

/-! ## The ends of a search for identifiers -/

/-- How asking queries may end: the result and the record that goes with it. -/
inductive ResolveTrace (dialect : Sql.Dialect) (queries : List IdQuery) :
    Except (SearchError ε) Restriction → List (Exchange ε) → Prop
  /-- A query failed while some channel was left, and none was asked after it. -/
  | failed {asked : Answered} {query : IdQuery} {later : List IdQuery} {cause : ε}
      (hqueries : queries = asked.map Prod.fst ++ query :: later)
      (hbefore : ∃ id, asked.Common id) :
      ResolveTrace dialect queries (.error ⟨query.stage, cause⟩)
        (asked.exchanges dialect ++ [.ids (query.fragment.render dialect) (.error cause)])
  /-- An answer left none of the channels there were, and no query was asked after it. -/
  | emptied {asked : Answered} {query : IdQuery} {answer : List ChannelId} {later : List IdQuery}
      (hqueries : queries = asked.map Prod.fst ++ query :: later)
      (hbefore : ∃ id, asked.Common id)
      (hafter : ∀ id, ¬ Answered.Common (asked ++ [(query, answer)]) id) :
      ResolveTrace dialect queries (.ok .noMatch)
        (Answered.exchanges (asked ++ [(query, answer)]) dialect)
  /-- All queries were answered, and some channel is left if there were any. -/
  | answered {asked : Answered} {running : Option IdSet}
      (hqueries : queries = asked.map Prod.fst) (hrunning : asked.Restricts running) :
      ResolveTrace dialect queries (.ok (running.elim .unrestricted .only))
        (asked.exchanges dialect)

theorem resolveFrom_of_error {executor : Executor (StateM σ) ε} {query : IdQuery}
    {state next : σ} {cause : ε} (hanswer : executor.fetchIds query state = (.error cause, next))
    (running : Option IdSet) (rest : List IdQuery) :
    resolveFrom executor running (query :: rest) state = (.error ⟨query.stage, cause⟩, next) := by
  simp only [resolveFrom, bind, StateT.bind, hanswer]
  rfl

theorem resolveFrom_of_ok {executor : Executor (StateM σ) ε} {query : IdQuery}
    {state next : σ} {answer : List ChannelId}
    (hanswer : executor.fetchIds query state = (.ok answer, next))
    (running : Option IdSet) (rest : List IdQuery) :
    resolveFrom executor running (query :: rest) state =
      if (narrow running answer).isEmpty then (.ok .noMatch, next)
      else resolveFrom executor (some (narrow running answer)) rest next := by
  simp only [resolveFrom, bind, StateT.bind, hanswer]
  cases (narrow running answer).isEmpty with
  | true => rfl
  | false => rfl

theorem Executor.recorded_fetchIds {executor : Executor (StateM σ) ε} {query : IdQuery}
    {state next : σ} {answer : Except ε (List ChannelId)}
    (hanswer : executor.fetchIds query state = (answer, next)) (dialect : Sql.Dialect)
    (record : List (Exchange ε)) :
    (executor.recorded dialect).fetchIds query (state, record) =
      (answer, next, record ++ [.ids (query.fragment.render dialect) answer]) := by
  simp [recorded, hanswer]

/-- Asking the remaining queries ends in one of the three ways, and recording does not change the
result or the state of the executor. -/
theorem resolveFrom_trace (executor : Executor (StateM σ) ε) (dialect : Sql.Dialect)
    {asked : Answered} {running : Option IdSet} (hrunning : asked.Restricts running)
    (queries : List IdQuery) (state : σ) :
    ∃ result next record, resolveFrom executor running queries state = (result, next) ∧
      resolveFrom (executor.recorded dialect) running queries (state, asked.exchanges dialect) =
        (result, next, record) ∧
      ResolveTrace dialect (asked.map Prod.fst ++ queries) result record := by
  -- The answers so far and the running set go together all the way through.
  induction queries generalizing asked running state with
  | nil =>
      refine ⟨_, state, _, rfl, rfl, ?_⟩
      rw [List.append_nil]
      exact .answered rfl hrunning
  | cons query rest ih =>
      obtain ⟨answer, next, hanswer⟩ :
          ∃ answer next, executor.fetchIds query state = (answer, next) := ⟨_, _, rfl⟩
      have hrecorded := executor.recorded_fetchIds hanswer dialect (asked.exchanges dialect)
      have hbefore : ∃ id, asked.Common id := hrunning.exists_common
      cases answer with
      | error cause =>
          rw [resolveFrom_of_error hanswer, resolveFrom_of_error hrecorded]
          exact ⟨_, _, _, rfl, rfl, .failed rfl hbefore⟩
      | ok ids =>
          rw [resolveFrom_of_ok hanswer, resolveFrom_of_ok hrecorded, ← Answered.exchanges_concat]
          cases hleft : (narrow running ids).isEmpty with
          | true =>
              -- The set has become empty with this answer, and it was not so before.
              refine ⟨_, _, _, rfl, rfl, .emptied rfl hbefore fun id hid => ?_⟩
              exact IdSet.isEmpty_eq_true_iff.1 hleft id ((hrunning.mem_narrow_iff query ids id).2 hid)
          | false =>
              obtain ⟨result, last, record, hresult, hrecord, htrace⟩ :=
                ih (hrunning.concat query hleft) next
              refine ⟨result, last, record, hresult, hrecord, ?_⟩
              simpa using htrace

/-! ## The ends of a search -/

/-- The result of a search by the answer to its listing: a failure is told with its stage, and the
rows are the result as they are. -/
def Outcome.ofListing : Except ε (List Row) → Except (SearchError ε) Outcome
  | .error cause => .error ⟨.channelQuery, cause⟩
  | .ok found => .ok (.rows found)

/-- How a search may end: the result and the record that goes with it. -/
inductive SearchTrace (dialect : Sql.Dialect) (criteria : Criteria) :
    Except (SearchError ε) Outcome → List (Exchange ε) → Prop
  /-- A query for identifiers failed.  The error is that failure, at the stage of the query. -/
  | idsFailed {error : SearchError ε} {record : List (Exchange ε)}
      (hids : ResolveTrace dialect criteria.idQueries (.error error) record) :
      SearchTrace dialect criteria (.error error) record
  /-- No channel was left, and the listing was not asked for. -/
  | emptied {record : List (Exchange ε)}
      (hids : ResolveTrace dialect criteria.idQueries (.ok .noMatch) record) :
      SearchTrace dialect criteria (.ok .empty) record
  /-- All queries for identifiers were answered, and then the listing of the channels that they
  have in common was asked for. -/
  | listed {asked : Answered} {ids : Option IdSet} (answer : Except ε (List Row))
      (hqueries : criteria.idQueries = asked.map Prod.fst) (hids : asked.Restricts ids) :
      SearchTrace dialect criteria (Outcome.ofListing answer)
        (asked.exchanges dialect ++
          [.rows ((RowQuery.ofNames criteria.names ids).fragment.render dialect) answer])

namespace Criteria

/-- All statements of a search that lists the channels with the given identifiers. -/
def statements (criteria : Criteria) (dialect : Sql.Dialect) (ids : Option IdSet) : List Issued :=
  (criteria.propertyMatch?.toList.map fun query => .ids (query.fragment.render dialect)) ++
    (criteria.tagPatterns.map fun glob =>
      .ids ((IdQuery.ofTagPattern glob).fragment.render dialect)) ++
    [.rows ((RowQuery.ofNames criteria.names ids).fragment.render dialect)]

theorem statements_eq (criteria : Criteria) (dialect : Sql.Dialect) (ids : Option IdSet) :
    criteria.statements dialect ids =
      (criteria.idQueries.map fun query => .ids (query.fragment.render dialect)) ++
        [.rows ((RowQuery.ofNames criteria.names ids).fragment.render dialect)] := by
  simp [statements, idQueries]

end Criteria

/-- The statements for identifiers are issued in order, without a gap. -/
theorem ResolveTrace.issued_prefix {dialect : Sql.Dialect} {queries : List IdQuery}
    {result : Except (SearchError ε) Restriction} {record : List (Exchange ε)}
    (h : ResolveTrace dialect queries result record) :
    record.map Exchange.issued <+: queries.map fun query => .ids (query.fragment.render dialect) := by
  cases h with
  | failed hqueries hbefore =>
      rw [hqueries, List.map_append, List.map_append, Answered.issued_exchanges]
      exact List.prefix_append_right_inj _ |>.2 (by simp [Exchange.issued])
  | emptied hqueries hbefore hafter =>
      rw [hqueries, Answered.issued_exchanges, List.map_append, List.map_append, List.map_append]
      exact List.prefix_append_right_inj _ |>.2 (by simp)
  | @answered asked running hqueries hrunning =>
      have hsame : (asked.exchanges dialect : List (Exchange ε)).map Exchange.issued =
          queries.map fun query => .ids (query.fragment.render dialect) := by
        rw [hqueries, Answered.issued_exchanges]
      exact hsame ▸ List.prefix_refl _

/-- The statements of a search are issued in order, without a gap. -/
theorem SearchTrace.issued_prefix {dialect : Sql.Dialect} {criteria : Criteria}
    {result : Except (SearchError ε) Outcome} {record : List (Exchange ε)}
    (h : SearchTrace dialect criteria result record) :
    ∃ ids, record.map Exchange.issued <+: criteria.statements dialect ids := by
  cases h with
  | idsFailed hids =>
      refine ⟨none, ?_⟩
      rw [criteria.statements_eq]
      exact hids.issued_prefix.trans (List.prefix_append _ _)
  | emptied hids =>
      refine ⟨none, ?_⟩
      rw [criteria.statements_eq]
      exact hids.issued_prefix.trans (List.prefix_append _ _)
  | @listed asked ids answer hqueries hids =>
      refine ⟨ids, ?_⟩
      rw [criteria.statements_eq, hqueries, List.map_append, Answered.issued_exchanges]
      exact List.prefix_refl _

/-- Asking for the listing, by what the executor answers. -/
theorem Criteria.list_apply {executor : Executor (StateM σ) ε} (criteria : Criteria)
    {ids : Option IdSet} {state next : σ} {answer : Except ε (List Row)}
    (hanswer : executor.fetchRows (RowQuery.ofNames criteria.names ids) state = (answer, next)) :
    criteria.list executor ids state =
      (Outcome.ofListing answer, next) := by
  simp only [Criteria.list, bind, StateT.bind, hanswer]
  cases answer with
  | error cause => rfl
  | ok rows => rfl

theorem Executor.recorded_fetchRows {executor : Executor (StateM σ) ε} {query : RowQuery}
    {state next : σ} {answer : Except ε (List Row)}
    (hanswer : executor.fetchRows query state = (answer, next)) (dialect : Sql.Dialect)
    (record : List (Exchange ε)) :
    (executor.recorded dialect).fetchRows query (state, record) =
      (answer, next, record ++ [.rows (query.fragment.render dialect) answer]) := by
  simp [recorded, hanswer]

namespace Criteria

theorem search_of_error {executor : Executor (StateM σ) ε} {criteria : Criteria}
    {state next : σ} {error : SearchError ε}
    (hresult : resolveFrom executor none criteria.idQueries state = (.error error, next)) :
    criteria.search executor state = (.error error, next) := by
  simp only [search, resolve, bind, StateT.bind, hresult]
  rfl

theorem search_of_noMatch {executor : Executor (StateM σ) ε} {criteria : Criteria}
    {state next : σ}
    (hresult : resolveFrom executor none criteria.idQueries state = (.ok .noMatch, next)) :
    criteria.search executor state = (.ok .empty, next) := by
  simp only [search, resolve, bind, StateT.bind, hresult]
  rfl

theorem search_of_running {executor : Executor (StateM σ) ε} {criteria : Criteria}
    {state next : σ} {running : Option IdSet}
    (hresult : resolveFrom executor none criteria.idQueries state =
      (.ok (running.elim .unrestricted .only), next)) :
    criteria.search executor state = criteria.list executor running next := by
  simp only [search, resolve, bind, StateT.bind, hresult]
  cases running with
  | none => rfl
  | some ids => rfl

end Criteria

/-- Whoever answers, a search issues its statements in order and without a gap, and ends in one of
the ways of `SearchTrace`.  Recording it changes neither its result nor what the executor does. -/
theorem Criteria.search_trace (criteria : Criteria) (executor : Executor (StateM σ) ε)
    (dialect : Sql.Dialect) (state : σ) :
    ∃ result next record, criteria.search executor state = (result, next) ∧
      criteria.search (executor.recorded dialect) (state, []) = (result, next, record) ∧
      SearchTrace dialect criteria result record ∧
      ∃ ids, record.map Exchange.issued <+: criteria.statements dialect ids := by
  have hstart : Answered.Restricts [] none := rfl
  obtain ⟨result, next, record, hresult, hrecord, htrace⟩ :=
    resolveFrom_trace executor dialect hstart criteria.idQueries state
  -- It is enough to find the end of the search, since its statements follow from that.
  suffices hend : ∃ result next record, criteria.search executor state = (result, next) ∧
      criteria.search (executor.recorded dialect) (state, []) = (result, next, record) ∧
      SearchTrace dialect criteria result record by
    obtain ⟨result, next, record, hresult, hrecord, htrace⟩ := hend
    exact ⟨result, next, record, hresult, hrecord, htrace, htrace.issued_prefix⟩
  rw [Answered.exchanges_nil] at hrecord
  rw [List.map_nil, List.nil_append] at htrace
  cases result with
  | error error =>
      exact ⟨_, _, _, search_of_error hresult, search_of_error hrecord, .idsFailed htrace⟩
  | ok restriction =>
      cases htrace with
      | emptied hqueries hbefore hafter =>
          exact ⟨_, _, _, search_of_noMatch hresult, search_of_noMatch hrecord,
            .emptied (.emptied hqueries hbefore hafter)⟩
      | @answered asked running hqueries hrunning =>
          obtain ⟨answer, last, hanswer⟩ : ∃ answer last,
              executor.fetchRows (RowQuery.ofNames criteria.names running) next = (answer, last) :=
            ⟨_, _, rfl⟩
          have hrecorded := Executor.recorded_fetchRows hanswer dialect (asked.exchanges dialect)
          refine ⟨_, last, _, ?_, ?_, .listed answer hqueries hrunning⟩
          · rw [search_of_running hresult, list_apply criteria hanswer]
          · rw [search_of_running hrecord, list_apply criteria hrecorded]

end ChannelCatalog
