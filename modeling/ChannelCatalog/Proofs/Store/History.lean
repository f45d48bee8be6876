import ChannelCatalog.Proofs.Store.Validity

/-!
# New identifiers over a session

A channel that is inserted without an identifier gets one that no channel had before.  What was
used before is told by the history of a session, which is read off its steps and their answers
(`History.ofSession`): what a transaction stored is forgotten when it is rolled back, but not when
the channel is deleted.  The mark of the tables is the largest identifier in the history
(`State.Follows`), and the rules of the reference schema hold in every state on the way.
-/

namespace ChannelCatalog
namespace Store

/-- The identifiers that a session has stored. -/
structure History where
  /-- The identifiers of all channels inserted, also of those deleted since. -/
  stored : List Int
  /-- Those that had been stored when the open transaction began, if there is one. -/
  saved : Option (List Int)
deriving DecidableEq, Repr

namespace History

def empty : History := ⟨[], none⟩

/-- The history once the open transaction, if there is one, has been rolled back. -/
def rolledBack (history : History) : History :=
  ⟨history.saved.getD history.stored, none⟩

/-- Notes a step that was taken. -/
def noteTaken (history : History) : Step → Answer → History
  | .insertChannel _ _ _, .number id => { history with stored := id :: history.stored }
  | .begin, _ => { history with saved := some history.stored }
  | .commit, _ => { history with saved := none }
  | .rollback, _ => history.rolledBack
  | _, _ => history

/-- Notes a step with its answer.  Where no identifier is left, the store rolls back the open
transaction by itself. -/
def note (history : History) (step : Step) : Except StoreError Answer → History
  | .ok answer => history.noteTaken step answer
  | .error .noIdLeft => history.rolledBack
  | .error _ => history

/-- The history of a session. -/
def ofSession (start : State) (steps : List Step) : History :=
  (steps.zip (start.run steps)).foldl (fun history noted => history.note noted.1 noted.2) empty

end History

/-- The largest of the numbers is above each of them. -/
theorem le_foldr_max {n : Int} {numbers : List Int} (h : n ∈ numbers) :
    n ≤ numbers.foldr max 0 := by
  induction numbers with
  | nil => cases h
  | cons first rest ih =>
      rw [List.foldr_cons]
      rcases List.mem_cons.1 h with rfl | hrest
      · exact Int.le_max_left _ _
      · exact Int.le_trans (ih hrest) (Int.le_max_right _ _)

theorem foldr_max_nonneg (numbers : List Int) : 0 ≤ numbers.foldr max 0 := by
  induction numbers with
  | nil => exact Int.le_refl 0
  | cons first rest ih => exact Int.le_trans ih (Int.le_max_right _ _)

/-- The tables hold channels with stored identifiers only, and their mark is the largest of all
that were stored. -/
structure Tables.Follows (tables : Tables) (stored : List Int) : Prop where
  schema : tables.schema = .reference
  lastId : tables.lastId = stored.foldr max 0
  present : ∀ channel ∈ tables.channels, channel.id.toInt ∈ stored

namespace Tables

theorem follows_empty : (empty .reference).Follows [] :=
  ⟨rfl, rfl, by simp [empty]⟩

variable {tables changed : Tables} {stored : List Int}

theorem Follows.insertChannel (h : tables.Follows stored) {id : Option ChannelId}
    {name owner : Cell} {chosen : ChannelId}
    (hchanged : tables.insertChannel id name owner = .ok (chosen, changed)) :
    changed.Follows (chosen.toInt :: stored) := by
  obtain ⟨-, -, rfl⟩ := insertChannel_eq_ok hchanged
  refine ⟨h.schema, ?_, ?_⟩
  · rw [List.foldr_cons, ← h.lastId]
    exact Int.max_comm _ _
  · intro channel hmem
    rcases List.mem_cons.1 ((placeChannel_perm _ _).mem_iff.1 hmem) with rfl | hknown
    · exact List.mem_cons_self
    · exact List.mem_cons_of_mem _ (h.present channel hknown)

theorem Follows.insertProperty (h : tables.Follows stored) {channel : Option ChannelId}
    {name value owner : Cell}
    (hchanged : tables.insertProperty channel name value owner = .ok changed) :
    changed.Follows stored := by
  obtain ⟨-, rfl⟩ := insertProperty_eq_ok hchanged
  exact ⟨h.schema, h.lastId, h.present⟩

/-- The mark stays where it is when the channel with the largest identifier goes. -/
theorem Follows.deleteChannel (h : tables.Follows stored) (id : ChannelId) :
    (tables.deleteChannel id).Follows stored :=
  ⟨h.schema, h.lastId, fun channel hmem => h.present channel (List.mem_of_mem_filter hmem)⟩

theorem Follows.withIndex (h : tables.Follows stored) : tables.withIndex.Follows stored :=
  ⟨congrArg Schema.withIndex h.schema, h.lastId, h.present⟩

/-- The identifier for a channel inserted without one is next to the mark. -/
theorem Follows.toInt_chosen (h : tables.Follows stored) {name owner : Cell} {chosen : ChannelId}
    (hchanged : tables.insertChannel none name owner = .ok (chosen, changed)) :
    chosen.toInt = stored.foldr max 0 + 1 := by
  obtain ⟨hchosen, -, -⟩ := insertChannel_eq_ok hchanged
  have hnext : tables.nextId = stored.foldr max 0 + 1 := by rw [nextId, h.schema, ← h.lastId]
  unfold chooseId at hchosen
  rw [hnext] at hchosen
  dsimp only at hchosen
  split at hchosen
  · rename_i hfits
    cases hchosen
    exact ChannelId.toInt_of_ofInt? hfits
  · cases hchosen

end Tables

namespace State

/-- The tables follow the history, and so do those put aside for the open transaction. -/
structure Follows (state : State) (history : History) : Prop where
  tables : ∃ tables, state.tables = some tables ∧ tables.Follows history.stored
  saved : Option.Rel (fun saved stored => ∃ tables, saved = some tables ∧ tables.Follows stored)
    state.saved history.saved

variable {state : State} {history : History}

theorem Follows.rolledBack (h : state.Follows history) :
    state.rolledBack.Follows history.rolledBack := by
  obtain ⟨tables, folding, saved⟩ := state
  obtain ⟨stored, storedBefore⟩ := history
  obtain ⟨htables, hsaved⟩ := h
  cases hsaved with
  | none => exact ⟨htables, .none⟩
  | some hback => exact ⟨hback, .none⟩

/-- A step that is taken changes the tables as the history notes it. -/
theorem Follows.step (h : state.Follows history) {step : Step} {answer : Answer} {next : State}
    (hstep : state.step step = .ok (answer, next)) :
    next.Follows (history.noteTaken step answer) := by
  obtain ⟨⟨known, hknown, hfollows⟩, hsaved⟩ := h
  have hheld : ∀ {tables : Tables}, state.tables = some tables →
      tables.Follows history.stored := by
    intro tables htables
    rw [hknown] at htables
    exact Option.some.inj htables ▸ hfollows
  cases takes_of_step hstep with
  | insertChannel htables hchanged =>
      exact ⟨⟨_, rfl, (hheld htables).insertChannel hchanged⟩, hsaved⟩
  | insertProperty htables hchanged =>
      exact ⟨⟨_, rfl, (hheld htables).insertProperty hchanged⟩, hsaved⟩
  | deleteChannel htables => exact ⟨⟨_, rfl, (hheld htables).deleteChannel _⟩, hsaved⟩
  | begin => exact ⟨⟨known, hknown, hfollows⟩, .some ⟨known, hknown, hfollows⟩⟩
  | commit => exact ⟨⟨known, hknown, hfollows⟩, .none⟩
  | rollback hrollback =>
      have hback := Follows.rolledBack ⟨⟨known, hknown, hfollows⟩, hsaved⟩
      rwa [State.rolledBack, hrollback] at hback
  | initSchema =>
      rw [hknown]
      exact ⟨⟨_, rfl, hfollows.withIndex⟩, hsaved⟩
  | hasSchema => exact ⟨⟨known, hknown, hfollows⟩, hsaved⟩
  | registerFunctions => exact ⟨⟨known, hknown, hfollows⟩, hsaved⟩
  | search => exact ⟨⟨known, hknown, hfollows⟩, hsaved⟩

/-- So does any step, also one that fails. -/
theorem Follows.after (h : state.Follows history) (step : Step) :
    (state.after step).Follows (history.note step ((state.step step).map Prod.fst)) := by
  unfold State.after
  cases hstep : state.step step with
  | ok taken => exact h.step hstep
  | error cause =>
      cases cause with
      | noIdLeft => exact h.rolledBack
      | _ => exact h

/-- So does a session. -/
theorem Follows.foldl_after (h : state.Follows history) (steps : List Step) :
    (steps.foldl State.after state).Follows
      ((steps.zip (state.run steps)).foldl (fun history noted => history.note noted.1 noted.2)
        history) := by
  induction steps generalizing state history with
  | nil => exact h
  | cons step rest ih => exact ih (h.after step)

theorem follows_ofSession {start : State} (hstart : start = .catalog ∨ start = .plain)
    (steps : List Step) :
    (steps.foldl State.after start).Follows (.ofSession start steps) := by
  refine Follows.foldl_after ?_ steps
  rcases hstart with rfl | rfl
  · exact ⟨⟨_, rfl, Tables.follows_empty⟩, .none⟩
  · exact ⟨⟨_, rfl, Tables.follows_empty⟩, .none⟩

/-- **What the reference schema maintains over whole sessions.**  In every state that a session
reaches, its rules hold.  A channel inserted there without an identifier gets one that is at least
one, and larger than all that were stored before. -/
theorem session_maintains {start : State} (hstart : start = .catalog ∨ start = .plain)
    (steps : List Step) :
    ∃ tables, (steps.foldl State.after start).tables = some tables ∧ tables.Valid ∧
      (∀ channel ∈ tables.channels, channel.id.toInt ∈ (History.ofSession start steps).stored) ∧
      ∀ (name owner : Cell) (answer : Answer) (next : State),
        (steps.foldl State.after start).step (.insertChannel none name owner) =
            .ok (answer, next) →
          ∃ id : ChannelId, answer = .number id.toInt ∧ 1 ≤ id.toInt ∧
            ∀ known ∈ (History.ofSession start steps).stored, known < id.toInt := by
  obtain ⟨⟨tables, htables, hfollows⟩, -⟩ := follows_ofSession hstart steps
  refine ⟨tables, htables, valid_of_foldl_after hstart steps rfl htables, hfollows.present, ?_⟩
  intro name owner answer next hstep
  cases takes_of_step hstep with
  | @insertChannel known changed _ _ _ chosen hknown hchanged =>
      obtain rfl : tables = known := Option.some.inj (htables.symm.trans hknown)
      have hchosen := hfollows.toInt_chosen hchanged
      have hmark := foldr_max_nonneg (History.ofSession start steps).stored
      refine ⟨chosen, rfl, by omega, fun stored hstored => ?_⟩
      have hle := le_foldr_max hstored
      omega

/-- A session that deletes its newest channel, and rolls back the insertion of another. -/
def rehearsal : List Step :=
  [.insertChannel (some ⟨7⟩) (.text "a") (.text "me"), .insertChannel none (.text "b") (.text "me"),
    .deleteChannel ⟨8⟩, .begin, .insertChannel none (.text "c") (.text "me"),
    .insertProperty (some ⟨9⟩) (.text "size") (.text "12") .null, .rollback]

theorem session_maintains_rehearsal :
    ∃ next : State, (rehearsal.foldl State.after .catalog).step
        (.insertChannel none (.text "d") (.text "me")) = .ok (.number 9, next) ∧
      (History.ofSession .catalog rehearsal).stored = [8, 7] ∧
      ∀ known ∈ (History.ofSession .catalog rehearsal).stored, known < 9 := by
  have hstep : ∃ next : State, (rehearsal.foldl State.after .catalog).step
      (.insertChannel none (.text "d") (.text "me")) = .ok (.number 9, next) := ⟨_, rfl⟩
  obtain ⟨next, hstep⟩ := hstep
  obtain ⟨-, -, -, -, hnew⟩ := session_maintains (Or.inl rfl) rehearsal
  obtain ⟨id, hid, -, hlarger⟩ := hnew _ _ _ _ hstep
  have hnine : id.toInt = 9 := (Answer.number.inj hid).symm
  exact ⟨next, hstep, by decide, fun known hknown => hnine ▸ hlarger known hknown⟩

end State
end Store
end ChannelCatalog
