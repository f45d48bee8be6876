import ChannelCatalog.Proofs.Store.Matching
import ChannelCatalog.Store.Session
import Mathlib.Data.List.Nodup

/-!
# What the reference schema maintains

A session changes tables by inserting and deleting, it puts them aside when a transaction begins,
and takes them up again when it is rolled back.  So what every single change of tables preserves
(`Preserved`) holds in all states that a session reaches, if it holds where the session begins.  This
is applied to the rules of the reference schema (`Tables.Valid`).
-/

namespace ChannelCatalog
namespace Store

/-- The rules of the reference schema hold for the rows of the tables. -/
structure Tables.Valid (tables : Tables) : Prop where
  schema : tables.schema = .reference
  distinctIds : (tables.channels.map ChannelRecord.id).Nodup
  distinctNames : (tables.channels.map ChannelRecord.name).Nodup
  named : ∀ channel ∈ tables.channels, channel.name ≠ .null ∧ channel.owner ≠ .null
  belongs : ∀ property ∈ tables.properties, property.name ≠ .null ∧
    ∃ channel ∈ tables.channels, property.channel = some channel.id
  distinctProperties :
    (tables.properties.map fun property => (property.channel, property.name)).Nodup

namespace Tables

theorem hasId_iff {tables : Tables} {id : ChannelId} :
    tables.hasId id = true ↔ ∃ channel ∈ tables.channels, channel.id = id := by
  simp [hasId]

/-- A placed channel is one more among the known ones. -/
theorem placeChannel_perm (channel : ChannelRecord) (known : List ChannelRecord) :
    (placeChannel channel known).Perm (channel :: known) := by
  induction known with
  | nil => exact List.Perm.refl _
  | cons first rest ih =>
      unfold placeChannel
      split
      · exact List.Perm.refl _
      · exact (ih.cons first).trans (List.Perm.swap channel first rest)

/-- What an insertion of a channel does, and under which conditions it is done. -/
theorem insertChannel_eq_ok {tables changed : Tables} {id : Option ChannelId} {name owner : Cell}
    {chosen : ChannelId} (h : tables.insertChannel id name owner = .ok (chosen, changed)) :
    tables.chooseId id = .ok chosen ∧
      tables.channelProblem? ⟨chosen, name.toTextCell, owner.toTextCell⟩ = none ∧
      changed = { tables with
        channels := placeChannel ⟨chosen, name.toTextCell, owner.toTextCell⟩ tables.channels
        lastId := max tables.lastId chosen.toInt } := by
  obtain ⟨id, hid, h⟩ := bind_eq_ok_iff.1 h
  dsimp only at h
  split at h
  · cases h
  · rename_i hproblem
    cases h
    exact ⟨hid, hproblem, rfl⟩

theorem insertProperty_eq_ok {tables changed : Tables} {channel : Option ChannelId}
    {name value owner : Cell} (h : tables.insertProperty channel name value owner = .ok changed) :
    tables.propertyProblem?
        ⟨channel, name.toTextCell, value.toTextCell, owner.toTextCell⟩ = none ∧
      changed = { tables with properties := tables.properties ++
        [⟨channel, name.toTextCell, value.toTextCell, owner.toTextCell⟩] } := by
  unfold insertProperty at h
  dsimp only at h
  split at h
  · cases h
  · rename_i hproblem
    cases h
    exact ⟨hproblem, rfl⟩

/-- There is nothing wrong with a channel under the reference schema if it is named and owned, and
both its identifier and its name are new. -/
theorem channelProblem?_eq_none_iff {tables : Tables} (hschema : tables.schema = .reference)
    {channel : ChannelRecord} :
    tables.channelProblem? channel = none ↔
      channel.name ≠ .null ∧ channel.owner ≠ .null ∧
        (∀ known ∈ tables.channels, known.id ≠ channel.id) ∧
        ∀ known ∈ tables.channels, known.name ≠ channel.name := by
  simp only [channelProblem?, hschema, true_and, hasId_iff, List.any_eq_true, decide_eq_true_eq]
  split_ifs <;> grind

/-- There is nothing wrong with a property under the reference schema if it is named, its channel
is known, and the channel has none of this name. -/
theorem propertyProblem?_eq_none_iff {tables : Tables} (hschema : tables.schema = .reference)
    {property : PropertyRecord} :
    tables.propertyProblem? property = none ↔
      property.name ≠ .null ∧
        (∃ channel ∈ tables.channels, property.channel = some channel.id) ∧
        ∀ known ∈ tables.properties,
          (known.channel, known.name) ≠ (property.channel, property.name) := by
  unfold propertyProblem?
  cases hchannel : property.channel with
  | none => simp [hschema]
  | some id =>
      simp only [hschema, ne_eq, not_true_eq_false, if_false, List.any_eq_true, Bool.and_eq_true,
        decide_eq_true_eq, hasId_iff]
      split_ifs <;> grind

/-! ## The rules under each change -/

theorem valid_empty : (empty .reference).Valid :=
  ⟨rfl, List.nodup_nil, List.nodup_nil, by simp [empty], by simp [empty], List.nodup_nil⟩

theorem Valid.insertChannel {tables changed : Tables} (hvalid : tables.Valid)
    {id : Option ChannelId} {name owner : Cell} {chosen : ChannelId}
    (h : tables.insertChannel id name owner = .ok (chosen, changed)) : changed.Valid := by
  obtain ⟨-, hproblem, rfl⟩ := insertChannel_eq_ok h
  obtain ⟨hnamed, howned, hid, hname⟩ := (channelProblem?_eq_none_iff hvalid.schema).1 hproblem
  have hperm := placeChannel_perm ⟨chosen, name.toTextCell, owner.toTextCell⟩ tables.channels
  refine ⟨hvalid.schema, ?_, ?_, ?_, ?_, hvalid.distinctProperties⟩
  -- Where a channel is placed does not matter for what is told apart.
  · rw [(hperm.map _).nodup_iff, List.map_cons, List.nodup_cons]
    exact ⟨by simpa using hid, hvalid.distinctIds⟩
  · rw [(hperm.map _).nodup_iff, List.map_cons, List.nodup_cons]
    exact ⟨by simpa using hname, hvalid.distinctNames⟩
  · intro channel hmem
    rcases List.mem_cons.1 (hperm.mem_iff.1 hmem) with rfl | hknown
    · exact ⟨hnamed, howned⟩
    · exact hvalid.named channel hknown
  · intro property hmem
    obtain ⟨hname, channel, hknown, hchannel⟩ := hvalid.belongs property hmem
    exact ⟨hname, channel, hperm.mem_iff.2 (List.mem_cons_of_mem _ hknown), hchannel⟩

theorem Valid.insertProperty {tables changed : Tables} (hvalid : tables.Valid)
    {channel : Option ChannelId} {name value owner : Cell}
    (h : tables.insertProperty channel name value owner = .ok changed) : changed.Valid := by
  obtain ⟨hproblem, rfl⟩ := insertProperty_eq_ok h
  obtain ⟨hnamed, hbelongs, hnew⟩ := (propertyProblem?_eq_none_iff hvalid.schema).1 hproblem
  refine ⟨hvalid.schema, hvalid.distinctIds, hvalid.distinctNames, hvalid.named, ?_, ?_⟩
  · intro property hmem
    rcases List.mem_append.1 hmem with hknown | hlast
    · exact hvalid.belongs property hknown
    · rw [List.mem_singleton.1 hlast]
      exact ⟨hnamed, hbelongs⟩
  · rw [List.map_append, List.nodup_append]
    refine ⟨hvalid.distinctProperties, List.nodup_singleton _, ?_⟩
    intro pair hpair other hother
    obtain ⟨known, hknown, rfl⟩ := List.mem_map.1 hpair
    rw [List.mem_singleton.1 hother]
    exact hnew known hknown

theorem Valid.deleteChannel {tables : Tables} (hvalid : tables.Valid) (id : ChannelId) :
    (tables.deleteChannel id).Valid := by
  have hchannels : (tables.channels.filter fun channel => channel.id ≠ id).Sublist
      tables.channels := List.filter_sublist
  unfold Tables.deleteChannel
  rw [hvalid.schema]
  refine ⟨rfl, hvalid.distinctIds.sublist (hchannels.map _),
    hvalid.distinctNames.sublist (hchannels.map _),
    fun channel hmem => hvalid.named channel (hchannels.mem hmem), ?_,
    hvalid.distinctProperties.sublist (List.filter_sublist.map _)⟩
  intro property hmem
  obtain ⟨hknown, hother⟩ := List.mem_filter.1 hmem
  obtain ⟨hname, channel, hchannel, hbelongs⟩ := hvalid.belongs property hknown
  -- The channel of a property that is left is not the deleted one, so it is left too.
  have hkept : channel.id ≠ id := by
    rintro rfl
    simp [hbelongs] at hother
  exact ⟨hname, channel, List.mem_filter.2 ⟨hchannel, by simpa using hkept⟩, hbelongs⟩

theorem Valid.withIndex {tables : Tables} (hvalid : tables.Valid) : tables.withIndex.Valid := by
  have hsame : tables.withIndex = tables := by
    obtain ⟨schema, channels, properties, lastId⟩ := tables
    obtain rfl : schema = .reference := hvalid.schema
    rfl
  rw [hsame]
  exact hvalid

end Tables

/-! ## Sessions -/

/-- A property of tables that every change of them preserves. -/
structure Preserved (P : Tables → Prop) : Prop where
  insertChannel : ∀ {tables changed : Tables} {id : Option ChannelId} {name owner : Cell}
    {chosen : ChannelId}, P tables →
      tables.insertChannel id name owner = .ok (chosen, changed) → P changed
  insertProperty : ∀ {tables changed : Tables} {channel : Option ChannelId}
    {name value owner : Cell}, P tables →
      tables.insertProperty channel name value owner = .ok changed → P changed
  deleteChannel : ∀ {tables : Tables}, P tables → ∀ id, P (tables.deleteChannel id)
  withIndex : ∀ {tables : Tables}, P tables → P tables.withIndex

namespace State

/-- What a step does that is taken: its answer and the store after it. -/
inductive Takes (state : State) : Step → Answer → State → Prop
  | insertChannel {tables changed : Tables} {id : Option ChannelId} {name owner : Cell}
      {chosen : ChannelId} (htables : state.tables = some tables)
      (hchanged : tables.insertChannel id name owner = .ok (chosen, changed)) :
      state.Takes (.insertChannel id name owner) (.number chosen.toInt) (state.withTables changed)
  | insertProperty {tables changed : Tables} {channel : Option ChannelId} {name value owner : Cell}
      (htables : state.tables = some tables)
      (hchanged : tables.insertProperty channel name value owner = .ok changed) :
      state.Takes (.insertProperty channel name value owner) (.number 1) (state.withTables changed)
  | deleteChannel {tables : Tables} {id : ChannelId} (htables : state.tables = some tables) :
      state.Takes (.deleteChannel id) (.number (if tables.hasId id then 1 else 0))
        (state.withTables (tables.deleteChannel id))
  | begin (hsaved : state.saved = none) :
      state.Takes .begin .done { state with saved := some state.tables }
  | commit {saved : Option Tables} (hsaved : state.saved = some saved) :
      state.Takes .commit .done { state with saved := none }
  | rollback {saved : Option Tables} (hsaved : state.saved = some saved) :
      state.Takes .rollback .done { state with tables := saved, saved := none }
  | hasSchema : state.Takes .hasSchema (.flag state.tables.isSome) state
  | initSchema :
      state.Takes .initSchema .done
        (state.withTables (state.tables.elim (.empty .reference) Tables.withIndex))
  | registerFunctions : state.Takes .registerFunctions .done { state with folding := .unicode }
  | search {criteria : Criteria} :
      state.Takes (.search criteria) (.search (state.search criteria)) state

theorem tablesFor_eq_ok {state : State} {table : String} {tables : Tables}
    (h : state.tablesFor table = .ok tables) : state.tables = some tables := by
  unfold State.tablesFor at h
  split at h
  · rename_i hknown
    exact Except.ok.inj h ▸ hknown
  · cases h

theorem takes_of_step {state next : State} {step : Step} {answer : Answer}
    (h : state.step step = .ok (answer, next)) : state.Takes step answer next := by
  cases step with
  | insertChannel id name owner =>
      obtain ⟨tables, htables, h⟩ := bind_eq_ok_iff.1 h
      obtain ⟨⟨chosen, changed⟩, hchanged, h⟩ := bind_eq_ok_iff.1 h
      cases h
      exact .insertChannel (tablesFor_eq_ok htables) hchanged
  | insertProperty channel name value owner =>
      obtain ⟨tables, htables, h⟩ := bind_eq_ok_iff.1 h
      obtain ⟨changed, hchanged, h⟩ := bind_eq_ok_iff.1 h
      cases h
      exact .insertProperty (tablesFor_eq_ok htables) hchanged
  | deleteChannel id =>
      obtain ⟨tables, htables, h⟩ := bind_eq_ok_iff.1 h
      cases h
      exact .deleteChannel (tablesFor_eq_ok htables)
  | begin =>
      simp only [State.step] at h
      split at h
      · cases h
      · rename_i hsaved
        cases h
        exact .begin (Option.not_isSome_iff_eq_none.1 hsaved)
  | commit =>
      simp only [State.step] at h
      split at h
      · rename_i hsaved
        cases h
        exact .commit (Option.isSome_iff_exists.1 hsaved).choose_spec
      · cases h
  | rollback =>
      simp only [State.step] at h
      split at h
      · rename_i hsaved
        obtain ⟨saved, hsaved⟩ := Option.isSome_iff_exists.1 hsaved
        have hback : state.rolledBack = { state with tables := saved, saved := none } := by
          rw [State.rolledBack, hsaved]
        cases h
        rw [hback]
        exact .rollback hsaved
      · cases h
  | hasSchema =>
      cases h
      exact .hasSchema
  | initSchema =>
      cases h
      exact .initSchema
  | registerFunctions =>
      cases h
      exact .registerFunctions
  | search criteria =>
      cases h
      exact .search

/-- The store has tables with a property, and so have the tables put aside, if there are any. -/
def Keeps (P : Tables → Prop) (state : State) : Prop :=
  (∃ tables, state.tables = some tables ∧ P tables) ∧
    ∀ saved, state.saved = some saved → ∃ tables, saved = some tables ∧ P tables

variable {P : Tables → Prop} {state : State}

theorem Keeps.rolledBack (h : state.Keeps P) : state.rolledBack.Keeps P := by
  unfold State.rolledBack
  cases hsaved : state.saved with
  | none => exact h
  | some saved => exact ⟨h.2 saved hsaved, by simp⟩

/-- A step that is taken keeps what all changes of tables preserve. -/
theorem Keeps.step (hP : Preserved P) (h : state.Keeps P) {step : Step} {answer : Answer}
    {next : State} (hstep : state.step step = .ok (answer, next)) : next.Keeps P := by
  obtain ⟨⟨known, hknown, hpresent⟩, hsaved⟩ := h
  have hheld : ∀ {tables : Tables}, state.tables = some tables → P tables := by
    intro tables htables
    rw [hknown] at htables
    exact Option.some.inj htables ▸ hpresent
  cases takes_of_step hstep with
  | insertChannel htables hchanged =>
      exact ⟨⟨_, rfl, hP.insertChannel (hheld htables) hchanged⟩, hsaved⟩
  | insertProperty htables hchanged =>
      exact ⟨⟨_, rfl, hP.insertProperty (hheld htables) hchanged⟩, hsaved⟩
  | deleteChannel htables => exact ⟨⟨_, rfl, hP.deleteChannel (hheld htables) _⟩, hsaved⟩
  | begin =>
      -- The tables put aside are the present ones.
      refine ⟨⟨known, hknown, hpresent⟩, fun saved hbegin => ?_⟩
      exact ⟨known, (Option.some.inj hbegin).symm.trans hknown, hpresent⟩
  | commit => exact ⟨⟨known, hknown, hpresent⟩, by simp⟩
  | rollback hrollback => exact ⟨hsaved _ hrollback, by simp⟩
  | initSchema =>
      rw [hknown]
      exact ⟨⟨_, rfl, hP.withIndex hpresent⟩, hsaved⟩
  | hasSchema => exact ⟨⟨known, hknown, hpresent⟩, hsaved⟩
  | registerFunctions => exact ⟨⟨known, hknown, hpresent⟩, hsaved⟩
  | search => exact ⟨⟨known, hknown, hpresent⟩, hsaved⟩

/-- The store after any step keeps it, also where the step fails. -/
theorem Keeps.after (hP : Preserved P) (h : state.Keeps P) (step : Step) :
    (state.after step).Keeps P := by
  unfold State.after
  split
  -- Of the failures, only the one for want of identifiers changes the store.
  · rename_i hstep
    exact h.step hP hstep
  · exact h.rolledBack
  · exact h

/-- So it holds in all states that a session reaches. -/
theorem Keeps.foldl_after (hP : Preserved P) (h : state.Keeps P) (steps : List Step) :
    (steps.foldl State.after state).Keeps P := by
  induction steps generalizing state with
  | nil => exact h
  | cons step rest ih => exact ih (h.after hP step)

theorem folding_rolledBack (state : State) : state.rolledBack.folding = state.folding := by
  unfold State.rolledBack
  cases state.saved <;> rfl

/-- A step leaves the folding as it is, or takes up that of all of Unicode. -/
theorem folding_step {state next : State} {step : Step} {answer : Answer}
    (h : state.step step = .ok (answer, next)) :
    next.folding = state.folding ∨ next.folding = .unicode := by
  cases takes_of_step h with
  | registerFunctions => exact Or.inr rfl
  | _ => exact Or.inl rfl

/-- So a session on a store that folds all of Unicode goes on to do so. -/
theorem folding_foldl_after {state : State} (hfolding : state.folding = .unicode)
    (steps : List Step) : (steps.foldl State.after state).folding = .unicode := by
  induction steps generalizing state with
  | nil => exact hfolding
  | cons step rest ih =>
      refine ih ?_
      unfold State.after
      split
      · rename_i hstep
        rcases folding_step hstep with hsame | hunicode
        · rw [hsame, hfolding]
        · exact hunicode
      · rw [folding_rolledBack, hfolding]
      · exact hfolding

end State

theorem preserved_valid : Preserved Tables.Valid where
  insertChannel hvalid hchanged := hvalid.insertChannel hchanged
  insertProperty hvalid hchanged := hvalid.insertProperty hchanged
  deleteChannel hvalid id := hvalid.deleteChannel id
  withIndex hvalid := hvalid.withIndex

/-- The rules of the reference schema hold whatever a session does. -/
theorem State.keeps_valid {start : State} (hstart : start = .catalog ∨ start = .plain)
    (steps : List Step) : (steps.foldl State.after start).Keeps Tables.Valid := by
  refine State.Keeps.foldl_after preserved_valid ?_ steps
  rcases hstart with rfl | rfl
  · exact ⟨⟨_, rfl, Tables.valid_empty⟩, by simp [State.catalog]⟩
  · exact ⟨⟨_, rfl, Tables.valid_empty⟩, by simp [State.plain]⟩

theorem State.valid_of_foldl_after {start state : State} {tables : Tables}
    (hstart : start = .catalog ∨ start = .plain) (steps : List Step)
    (hstate : steps.foldl State.after start = state) (htables : state.tables = some tables) :
    tables.Valid := by
  obtain ⟨⟨found, hfound, hvalid⟩, -⟩ := keeps_valid hstart steps
  rw [hstate, htables] at hfound
  exact Option.some.inj hfound ▸ hvalid

end Store
end ChannelCatalog
