import ChannelCatalog.Proofs.Store.Limits
import ChannelCatalog.Proofs.Store.Listing
import ChannelCatalog.Proofs.Store.Resolution

/-!
# What a search on a catalog answers

On any store that a session makes of an empty catalog, a search lists the channels that its
criteria ask for, each with all its properties, in the order of their names; and it says so if
properties and tags fit no channel.  A store fails to answer only beyond its limits: where a glob
becomes too long a pattern, or a statement has too many of them.
-/

namespace ChannelCatalog

/-- A restriction leaves nothing, or it restricts a listing to a set or not at all. -/
theorem Restriction.eq_noMatch_or (restriction : Restriction) :
    restriction = .noMatch ∨ ∃ ids : Option IdSet, restriction = ids.elim .unrestricted .only := by
  cases restriction with
  | unrestricted => exact Or.inr ⟨none, rfl⟩
  | only ids => exact Or.inr ⟨some ids, rfl⟩
  | noMatch => exact Or.inl rfl

theorem Restriction.elim_ne_noMatch (ids : Option IdSet) :
    ids.elim Restriction.unrestricted .only ≠ .noMatch := by
  cases ids <;> simp

theorem Restriction.elim_inj {ids others : Option IdSet} :
    ids.elim Restriction.unrestricted .only = others.elim .unrestricted .only ↔ ids = others := by
  cases ids <;> cases others <;> simp

namespace Criteria

variable {ε : Type} {executor : Executor Id ε} {criteria : Criteria} {outcome : Outcome}

theorem list_eq_ok_iff {ids : Option IdSet} :
    criteria.list executor ids = .ok outcome ↔
      ∃ rows, executor.fetchRows (.ofNames criteria.names ids) = .ok rows ∧
        outcome = .rows rows := by
  simp only [list, bind, pure]
  cases executor.fetchRows (.ofNames criteria.names ids) with
  | error cause =>
      constructor
      · intro h
        cases h
      · rintro ⟨rows, hrows, -⟩
        cases hrows
  | ok rows =>
      constructor
      · intro h
        cases h
        exact ⟨rows, rfl, rfl⟩
      · rintro ⟨found, hfound, rfl⟩
        cases hfound
        rfl

/-- Once its identifiers are resolved, a search goes on with its listing. -/
theorem search_eq_list {ids : Option IdSet}
    (hresolve : criteria.resolve executor = .ok (ids.elim .unrestricted .only)) :
    criteria.search executor = criteria.list executor ids := by
  simp only [search, bind, hresolve]
  cases ids with
  | none => rfl
  | some ids => rfl

/-- A search is answered when its identifiers are resolved, and, unless there are none, its listing
is answered. -/
theorem search_eq_ok_iff :
    criteria.search executor = .ok outcome ↔
      (criteria.resolve executor = .ok .noMatch ∧ outcome = .empty) ∨
        ∃ (ids : Option IdSet) (rows : List Row),
          criteria.resolve executor = .ok (ids.elim .unrestricted .only) ∧
          executor.fetchRows (.ofNames criteria.names ids) = .ok rows ∧ outcome = .rows rows := by
  -- A search looks at its resolution first, so that decides the cases.
  cases hresolve : criteria.resolve executor with
  | error error =>
      have hsearch : criteria.search executor = .error error := by
        simp only [search, bind, hresolve]
        rfl
      simp [hsearch]
  | ok restriction =>
      rcases restriction.eq_noMatch_or with rfl | ⟨ids, rfl⟩
      · have hsearch : criteria.search executor = .ok .empty := by
          simp only [search, bind, hresolve]
          rfl
        rw [hsearch]
        constructor
        · intro h
          cases h
          exact Or.inl ⟨rfl, rfl⟩
        · rintro (⟨-, rfl⟩ | ⟨ids, rows, hids, -, -⟩)
          · rfl
          · exact absurd (Except.ok.inj hids).symm (Restriction.elim_ne_noMatch ids)
      · rw [search_eq_list hresolve, list_eq_ok_iff]
        constructor
        · rintro ⟨rows, hrows, houtcome⟩
          exact Or.inr ⟨ids, rows, rfl, hrows, houtcome⟩
        · rintro (⟨hnone, -⟩ | ⟨others, rows, hothers, hrows, houtcome⟩)
          · exact absurd (Except.ok.inj hnone) (Restriction.elim_ne_noMatch ids)
          · rw [Restriction.elim_inj.1 (Except.ok.inj hothers)]
            exact ⟨rows, hrows, houtcome⟩

theorem hasIdCriteria_iff :
    criteria.hasIdCriteria = true ↔ criteria.idQueries ≠ [] := by
  rw [Ne, idQueries_eq_nil_iff]
  cases hproperties : criteria.properties <;> cases hexact : criteria.exactTags <;>
    cases hpatterns : criteria.tagPatterns <;>
    simp [hasIdCriteria, requiresPropertyMatch, hproperties, hexact, hpatterns]

end Criteria

namespace Store

/-- A channel is resolved: the counted names are told apart, and it meets all criteria on
properties and tags. -/
def Tables.Resolves (tables : Tables) (folding : Folding) (criteria : Criteria)
    (id : ChannelId) : Prop :=
  (criteria.foldedNames folding).Nodup ∧ tables.Meets folding criteria id

instance (tables : Tables) (folding : Folding) (criteria : Criteria) (id : ChannelId) :
    Decidable (tables.Resolves folding criteria id) :=
  inferInstanceAs (Decidable (_ ∧ _))

/-- A channel is wanted: it is resolved if there are criteria on properties or tags, and its name
is like one of the globs for names if there are any. -/
def Tables.Wants (tables : Tables) (folding : Folding) (criteria : Criteria)
    (channel : ChannelRecord) : Prop :=
  (criteria.hasIdCriteria = true → tables.Resolves folding criteria channel.id) ∧
    (criteria.names ≠ [] → ∃ glob ∈ criteria.names, channel.name.Likes (Glob.toLike glob))

/-- Without criteria on properties or tags there is nothing to meet. -/
theorem Tables.resolves_iff {tables : Tables} {folding : Folding} {criteria : Criteria}
    {id : ChannelId} :
    (criteria.hasIdCriteria = true → tables.Resolves folding criteria id) ↔
      tables.Resolves folding criteria id := by
  refine ⟨fun himplied => ?_, fun h _ => h⟩
  by_cases hcriteria : criteria.hasIdCriteria = true
  · exact himplied hcriteria
  · rw [Criteria.hasIdCriteria_iff, Ne, not_not, Criteria.idQueries_eq_nil_iff] at hcriteria
    obtain ⟨hproperties, hexact, hpatterns⟩ := hcriteria
    exact ⟨by simp [Criteria.foldedNames, hproperties, hexact],
      ⟨by simp [hproperties], by simp [hexact], by simp [hpatterns]⟩⟩

theorem Tables.Wants.resolves {tables : Tables} {folding : Folding} {criteria : Criteria}
    {channel : ChannelRecord} (h : tables.Wants folding criteria channel) :
    tables.Resolves folding criteria channel.id :=
  resolves_iff.1 h.1

/-- The outcome that a search should have: nothing is listed if there are criteria on properties
or tags that resolve no channel, and else the wanted channels are listed. -/
structure Tables.Answers (tables : Tables) (folding : Folding) (criteria : Criteria)
    (outcome : Outcome) : Prop where
  empty_iff : outcome = .empty ↔
    criteria.hasIdCriteria = true ∧ ∀ id, ¬ tables.Resolves folding criteria id
  lists : ∀ rows, outcome = .rows rows → tables.Lists (tables.Wants folding criteria) rows

namespace Tables.Answers

variable {tables : Tables} {folding : Folding} {criteria other : Criteria}
  {outcome result : Outcome}

/-- An outcome lists the wanted channels also where nothing is listed, for then none is wanted. -/
theorem lists_toRows (h : tables.Answers folding criteria outcome) :
    tables.Lists (tables.Wants folding criteria) outcome.toRows := by
  cases outcome with
  | empty =>
      obtain ⟨hcriteria, hnone⟩ := h.empty_iff.1 rfl
      refine ⟨[], fun _ => [], fun channel => ?_, .nil, by simp, rfl⟩
      exact iff_of_false List.not_mem_nil fun hwanted =>
        hnone channel.id (hwanted.2.1 hcriteria)
  | rows rows => exact h.lists rows rfl

/-- There is one outcome that a search should have, and criteria that ask for the same channels have
the same. -/
theorem eq_of_iff (h : tables.Answers folding criteria outcome)
    (hresult : tables.Answers folding other result)
    (hcriteria : criteria.hasIdCriteria = other.hasIdCriteria)
    (hresolves : ∀ id, tables.Resolves folding criteria id ↔ tables.Resolves folding other id)
    (hwants : ∀ channel,
      tables.Wants folding criteria channel ↔ tables.Wants folding other channel) :
    outcome = result := by
  have hempty : outcome = .empty ↔ result = .empty := by
    simp only [h.empty_iff, hresult.empty_iff, hcriteria, hresolves]
  have hrows : outcome.toRows = result.toRows := h.lists_toRows.eq_of_iff hresult.lists_toRows hwants
  cases outcome with
  | empty => exact (hempty.1 rfl).symm
  | rows rows =>
      cases result with
      | empty => exact hempty.2 rfl
      | rows found => exact congrArg Outcome.rows hrows

end Tables.Answers

/-- The set to which a listing is restricted: the resolved channels, of which there are some, if
there are criteria on properties or tags, and no set if there are none. -/
def Tables.Restricts (tables : Tables) (folding : Folding) (criteria : Criteria) :
    Option IdSet → Prop
  | none => criteria.hasIdCriteria = false
  | some found => criteria.hasIdCriteria = true ∧ found.isEmpty = false ∧
      ∀ id, id ∈ found ↔ tables.Resolves folding criteria id

/-- The criteria stay within the limits of a store: no glob becomes a pattern that is too long, and
neither the counted query nor the listing is too large. -/
structure WithinLimits (folding : Folding) (criteria : Criteria) : Prop
    extends Accepts folding criteria where
  names : ∀ glob ∈ criteria.names, Like.isTooLong (Glob.toLike glob) = false
  listing : criteria.names.length ≤ Limits.maxNames criteria.hasIdCriteria

theorem Tables.Restricts.isSome_eq {tables : Tables} {folding : Folding} {criteria : Criteria}
    {ids : Option IdSet} (h : tables.Restricts folding criteria ids) :
    ids.isSome = criteria.hasIdCriteria := by
  cases ids with
  | none => exact Eq.symm h
  | some found => exact h.1.symm

theorem Tables.Valid.owned {tables : Tables} (hvalid : tables.Valid) : tables.Owned := by
  intro property hmem
  obtain ⟨-, channel, -, hchannel⟩ := hvalid.belongs property hmem
  rw [hchannel]
  exact Option.some_ne_none channel.id

namespace State

variable {state : State} {tables : Tables}

theorem fetchRows_eq_ok_iff (htables : state.tables = some tables) {query : RowQuery}
    {rows : List Row} :
    state.fetchRows query = .ok rows ↔
      query.names.length ≤ Limits.maxNames query.ids.isSome ∧
        tables.fetchRows query = .ok rows := by
  have hfound : state.tablesFor "channel" = .ok tables := by simp [tablesFor, htables]
  rw [← Limits.listing_accepted_iff]
  simp only [fetchRows, bind_eq_ok_iff, hfound, Except.ok.injEq, exists_eq_left']
  constructor
  · rintro ⟨depth, hread, ⟨⟩, hjoin, h⟩
    exact ⟨⟨depth, hread, hjoin⟩, h⟩
  · rintro ⟨⟨depth, hread, hjoin⟩, h⟩
    exact ⟨depth, hread, (), hjoin, h⟩

/-- If resolving leaves nothing, there are criteria on properties or tags, and no channel meets
them. -/
theorem not_resolves_of_noMatch (htables : state.tables = some tables) {criteria : Criteria}
    (h : criteria.resolve state.executor = .ok .noMatch) :
    criteria.hasIdCriteria = true ∧ ∀ id, ¬ tables.Resolves state.folding criteria id := by
  have hsome : criteria.idQueries ≠ [] := fun hnone =>
    Restriction.noConfusion (resolve_of_idQueries_eq_nil hnone h)
  exact ⟨Criteria.hasIdCriteria_iff.2 hsome, resolve_leaves htables hsome h⟩

/-- Otherwise it leaves the set to which the listing is to be restricted. -/
theorem restricts_of_resolve (htables : state.tables = some tables) {criteria : Criteria}
    {ids : Option IdSet}
    (h : criteria.resolve state.executor = .ok (ids.elim .unrestricted .only)) :
    tables.Restricts state.folding criteria ids := by
  by_cases hnone : criteria.idQueries = []
  · have hcriteria : criteria.hasIdCriteria = false := by
      rw [← Bool.not_eq_true, Criteria.hasIdCriteria_iff, not_not]
      exact hnone
    cases ids with
    | none => exact hcriteria
    | some found => exact Restriction.noConfusion (resolve_of_idQueries_eq_nil hnone h)
  · have hleaves := resolve_leaves htables hnone h
    cases ids with
    | none => exact hleaves.elim
    | some found => exact ⟨Criteria.hasIdCriteria_iff.2 hnone, hleaves⟩

/-- The channels that the query for rows asks for, once identifiers are resolved, are the wanted
ones. -/
theorem isListed_iff_wants {folding : Folding} {criteria : Criteria} {ids : Option IdSet}
    (hids : tables.Restricts folding criteria ids) (channel : ChannelRecord) :
    channel.IsListed (.ofNames criteria.names ids) ↔ tables.Wants folding criteria channel := by
  have hnames : (∃ pattern ∈ criteria.names.map Glob.toLike, channel.name.Likes pattern) ↔
      ∃ glob ∈ criteria.names, channel.name.Likes (Glob.toLike glob) := by
    simp
  have hsome : criteria.names.map Glob.toLike ≠ [] ↔ criteria.names ≠ [] := by
    simp
  rw [ChannelRecord.IsListed, Tables.Wants, RowQuery.ofNames, hnames, hsome]
  refine and_congr_left fun _ => ?_
  cases ids with
  | none =>
      have hcriteria : criteria.hasIdCriteria = false := hids
      simp [hcriteria]
  | some found =>
      obtain ⟨hcriteria, -, hfound⟩ := hids
      simp [hcriteria, hfound]

/-- A listing that is asked for resolves some channel if it is restricted. -/
theorem exists_resolves_of_restricts {folding : Folding} {criteria : Criteria}
    {ids : Option IdSet} (hids : tables.Restricts folding criteria ids)
    (hcriteria : criteria.hasIdCriteria = true) :
    ∃ id, tables.Resolves folding criteria id := by
  cases ids with
  | none =>
      rw [show criteria.hasIdCriteria = false from hids] at hcriteria
      cases hcriteria
  | some found =>
      obtain ⟨-, hsome, hfound⟩ := hids
      -- A set without members would have ended the search before.
      by_contra hnone
      have hempty : found.isEmpty = true :=
        IdSet.isEmpty_eq_true_iff.2 fun id hid => hnone ⟨id, (hfound id).1 hid⟩
      rw [hsome] at hempty
      cases hempty

/-- A search that succeeds has the outcome that it should have. -/
theorem answers_of_search (htables : state.tables = some tables) (hvalid : tables.Valid)
    (htextual : tables.IsTextual) {criteria : Criteria} {outcome : Outcome}
    (h : state.search criteria = .ok outcome) :
    tables.Answers state.folding criteria outcome := by
  rcases Criteria.search_eq_ok_iff.1 h with ⟨hresolve, rfl⟩ | ⟨ids, rows, hresolve, hrows, rfl⟩
  · exact ⟨iff_of_true rfl (not_resolves_of_noMatch htables hresolve), fun _ hrows => by
      cases hrows⟩
  · have hids := restricts_of_resolve htables hresolve
    refine ⟨iff_of_false (by simp) ?_, ?_⟩
    · rintro ⟨hcriteria, hnone⟩
      obtain ⟨id, hid⟩ := exists_resolves_of_restricts hids hcriteria
      exact hnone id hid
    · rintro _ ⟨⟩
      have hlists := Tables.lists_of_fetchRows hvalid htextual
        ((fetchRows_eq_ok_iff htables).1 hrows).2
      -- The listing is that of the query, whose channels are the wanted ones.
      exact hlists.congr (isListed_iff_wants hids)

/-- A search within the limits of the store succeeds. -/
theorem exists_search (htables : state.tables = some tables) (hvalid : tables.Valid)
    (htextual : tables.IsTextual) {criteria : Criteria}
    (hlimits : WithinLimits state.folding criteria) :
    ∃ outcome, state.search criteria = .ok outcome := by
  obtain ⟨restriction, hresolve⟩ := exists_resolve htables hvalid.owned hlimits.toAccepts
  -- The limits leave room for a set exactly where the criteria lead to one.
  have hlisting : ∀ ids : Option IdSet, ids.isSome = criteria.hasIdCriteria →
      ∃ rows, state.executor.fetchRows (.ofNames criteria.names ids) = .ok rows := by
    intro ids hids
    have hshort : ∀ pattern ∈ (RowQuery.ofNames criteria.names ids).names,
        Like.isTooLong pattern = false := by
      intro pattern hpattern
      obtain ⟨glob, hglob, rfl⟩ := List.mem_map.1 hpattern
      exact hlimits.names glob hglob
    obtain ⟨rows, hrows⟩ := Tables.exists_fetchRows hvalid htextual hshort
    refine ⟨rows, (fetchRows_eq_ok_iff htables).2 ⟨?_, hrows⟩⟩
    have hcount := hlimits.listing
    rw [← hids] at hcount
    simpa [RowQuery.ofNames] using hcount
  rcases restriction.eq_noMatch_or with rfl | ⟨ids, rfl⟩
  · exact ⟨.empty, Criteria.search_eq_ok_iff.2 (Or.inl ⟨hresolve, rfl⟩)⟩
  · have hmode := (restricts_of_resolve htables hresolve).isSome_eq
    obtain ⟨rows, hrows⟩ := hlisting ids hmode
    exact ⟨.rows rows, Criteria.search_eq_ok_iff.2 (Or.inr ⟨ids, rows, hresolve, hrows, rfl⟩)⟩

/-- **A search lists exactly the wanted channels.**  On every store that a session makes of an empty
catalog, and whose cells hold texts or nothing, a search within the limits succeeds, and a search
that succeeds has the outcome that it should have. -/
theorem search_answers {start : State} (hstart : start = .catalog ∨ start = .plain)
    (steps : List Step) {state : State} (hstate : steps.foldl State.after start = state)
    (htextual : ∀ tables, state.tables = some tables → tables.IsTextual) (criteria : Criteria) :
    ∃ tables, state.tables = some tables ∧
      (WithinLimits state.folding criteria → ∃ outcome, state.search criteria = .ok outcome) ∧
      ∀ outcome, state.search criteria = .ok outcome →
        tables.Answers state.folding criteria outcome := by
  obtain ⟨⟨tables, htables, hvalid⟩, -⟩ := keeps_valid hstart steps
  rw [hstate] at htables
  have htextual := htextual tables htables
  exact ⟨tables, htables, exists_search htables hvalid htextual,
    fun outcome h => answers_of_search htables hvalid htextual h⟩

/-- A session that makes two channels, of which the second has a property and a tag. -/
def shelving : List Step :=
  [.insertChannel none (.text "beta") (.text "me"), .insertChannel none (.text "alpha") (.text "me"),
    .insertProperty (some ⟨2⟩) (.text "size") (.text "12") .null,
    .insertProperty (some ⟨2⟩) (.text "New") .null (.text "you")]

/-- Sized new channels whose names begin with an `a`. -/
def sizedAndNew : Criteria :=
  { names := ["A*"], properties := [⟨"Size", []⟩], exactTags := ["new"] }

/-- The tables that the session leaves. -/
def shelved : Tables :=
  ⟨.reference,
    [⟨⟨1⟩, .text "beta", .text "me"⟩, ⟨⟨2⟩, .text "alpha", .text "me"⟩],
    [⟨some ⟨2⟩, .text "size", .text "12", .null⟩, ⟨some ⟨2⟩, .text "New", .null, .text "you"⟩], 2⟩

theorem foldl_after_shelving :
    shelving.foldl State.after .catalog = ⟨some shelved, .unicode, none⟩ := by
  decide

theorem isTextual_shelved : shelved.IsTextual :=
  ⟨by decide, by decide⟩

theorem valid_shelved : shelved.Valid :=
  valid_of_foldl_after (Or.inl rfl) shelving foldl_after_shelving rfl

theorem search_answers_shelved :
    ∃ rows, (shelving.foldl State.after .catalog).search sizedAndNew = .ok (.rows rows) ∧
      shelved.Lists (shelved.Wants .unicode sizedAndNew) rows := by
  obtain ⟨tables, htables, hsucceeds, hanswers⟩ :=
    search_answers (Or.inl rfl) shelving foldl_after_shelving
      (fun _ htables => Option.some.inj htables ▸ isTextual_shelved) sizedAndNew
  cases htables
  obtain ⟨outcome, houtcome⟩ :=
    hsucceeds ⟨⟨by decide, by decide, by decide⟩, by decide, by decide⟩
  have hanswer := hanswers outcome houtcome
  rw [foldl_after_shelving]
  cases outcome with
  | empty => exact absurd (by decide) ((hanswer.empty_iff.1 rfl).2 ⟨2⟩)
  | rows rows => exact ⟨rows, houtcome, hanswer.lists rows rfl⟩

/-- A glob for names that becomes too long a pattern is compared with the name of any channel that
there is: the listing fails instead. -/
theorem search_of_isTooLong (htables : state.tables = some tables) {channel : ChannelRecord}
    {rest : List ChannelRecord} (hchannels : tables.channels = channel :: rest) {glob : String}
    (hlong : Like.isTooLong (Glob.toLike glob) = true) :
    state.search { names := [glob] } = .error ⟨.channelQuery, .patternTooLong⟩ := by
  have hread : Limits.readRowQuery ⟨none, [Glob.toLike glob]⟩ = .ok Limits.likeDepth := rfl
  have hjoin : Limits.readJoin ⟨none, [Glob.toLike glob]⟩ Limits.likeDepth = .ok () := rfl
  have hfetch : state.fetchRows ⟨none, [Glob.toLike glob]⟩ = .error .patternTooLong := by
    rw [fetchRows, hread]
    simp [tablesFor, htables, Tables.fetchRows, hchannels, select, ChannelRecord.isListed, hjoin,
      TextCell.isLikeAny, TextCell.isLike, hlong, bind, Except.bind]
  have hlisting : RowQuery.ofNames [glob] none = ⟨none, [Glob.toLike glob]⟩ := rfl
  simp only [search, Criteria.search, Criteria.resolve, Criteria.list, executor, hlisting, hfetch,
    bind, pure]
  rfl

theorem search_overlong :
    (shelving.foldl State.after .catalog).search { names := [Glob.overlong] } =
      .error ⟨.channelQuery, .patternTooLong⟩ := by
  rw [foldl_after_shelving]
  exact search_of_isTooLong rfl rfl Glob.isTooLong_overlong

end State
end Store
end ChannelCatalog
