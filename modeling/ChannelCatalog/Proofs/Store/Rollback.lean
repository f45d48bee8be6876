import ChannelCatalog.Proofs.Store.Validity

/-!
# Steps without a trace

What a step leaves behind shows in later answers.  A step that fails leaves nothing, and neither
does a transaction that is rolled back: later answers are as if the steps had not been taken.  There
is one exception.  A store that has no identifier left for a channel rolls back the open
transaction by itself, so that this failure ends the transaction.

Inserting, deleting and searching do not look at the tables put aside for the open transaction
(`State.step_withSaved`), so inside a transaction these steps answer what they answer outside.
-/

namespace ChannelCatalog
namespace Store

/-- Whether a step inserts or deletes rows, or searches them. -/
def Step.concernsRows : Step → Bool
  | .insertChannel _ _ _ | .insertProperty _ _ _ _ | .deleteChannel _ | .search _ => true
  | _ => false

namespace State

/-- The store with other tables put aside for the open transaction, or without one. -/
def withSaved (state : State) (saved : Option (Option Tables)) : State :=
  { state with saved := saved }

variable {state : State}

theorem run_append (state : State) (first rest : List Step) :
    state.run (first ++ rest) = state.run first ++ (first.foldl State.after state).run rest := by
  induction first generalizing state with
  | nil => rfl
  | cons step more ih => exact congrArg (_ :: ·) (ih (state.after step))

theorem run_cons_of_error {step : Step} {cause : StoreError} (h : state.step step = .error cause)
    (later : List Step) :
    state.run (step :: later) = .error cause :: (state.after step).run later := by
  rw [State.run, h]
  rfl

/-! ## Steps that fail -/

theorem after_of_error {step : Step} {cause : StoreError} (h : state.step step = .error cause)
    (hother : cause ≠ .noIdLeft) : state.after step = state := by
  rw [State.after, h]
  cases cause with
  | noIdLeft => exact absurd rfl hother
  | _ => rfl

theorem after_of_noIdLeft {step : Step} (h : state.step step = .error .noIdLeft) :
    state.after step = state.rolledBack := by
  rw [State.after, h]

theorem rolledBack_of_saved_eq_none (h : state.saved = none) : state.rolledBack = state := by
  rw [State.rolledBack, h]

/-! ## Steps inside a transaction -/

/-- A step that concerns rows changes the tables only. -/
theorem eq_of_takes {step : Step} {answer : Answer} {next : State}
    (htakes : state.Takes step answer next) (h : step.concernsRows = true) :
    next = { state with tables := next.tables } := by
  cases htakes with
  | insertChannel _ _ => rfl
  | insertProperty _ _ => rfl
  | deleteChannel _ => rfl
  | search => rfl
  | _ => cases h

theorem step_withSaved (state : State) {step : Step} (h : step.concernsRows = true)
    (saved : Option (Option Tables)) :
    (state.withSaved saved).step step =
      (state.step step).map fun taken => (taken.1, taken.2.withSaved saved) := by
  obtain ⟨tables, folding, before⟩ := state
  cases tables with
  | none => cases step <;> first | rfl | cases h
  | some tables =>
      cases step with
      | insertChannel id name owner =>
          change (tables.insertChannel id name owner >>= _) =
            Except.map _ (tables.insertChannel id name owner >>= _)
          cases tables.insertChannel id name owner <;> rfl
      | insertProperty channel name value owner =>
          change (tables.insertProperty channel name value owner >>= _) =
            Except.map _ (tables.insertProperty channel name value owner >>= _)
          cases tables.insertProperty channel name value owner <;> rfl
      | deleteChannel id => rfl
      | search criteria => rfl
      | _ => cases h

/-- Inside a transaction, steps that concern rows answer and do what they do outside, as long as
there are identifiers left. -/
theorem run_withSaved {steps : List Step} (hrows : ∀ step ∈ steps, step.concernsRows = true)
    (hleft : .error .noIdLeft ∉ state.run steps) (saved : Option (Option Tables)) :
    (state.withSaved saved).run steps = state.run steps ∧
      steps.foldl State.after (state.withSaved saved) =
        (steps.foldl State.after state).withSaved saved := by
  induction steps generalizing state with
  | nil => exact ⟨rfl, rfl⟩
  | cons step rest ih =>
      obtain ⟨hanswer, hrest⟩ := not_or.1 (mt List.mem_cons.2 hleft)
      have hstep := step_withSaved state (hrows step List.mem_cons_self) saved
      have hafter : (state.withSaved saved).after step = (state.after step).withSaved saved := by
        cases htaken : state.step step with
        | ok taken =>
            rw [htaken] at hstep
            rw [State.after, hstep, State.after, htaken]
            rfl
        | error cause =>
            have hother : cause ≠ .noIdLeft := by
              rintro rfl
              exact hanswer (by rw [htaken]; rfl)
            rw [htaken] at hstep
            rw [after_of_error hstep hother, after_of_error htaken hother]
      obtain ⟨hrun, hfold⟩ :=
        ih (fun other hother => hrows other (List.mem_cons_of_mem step hother)) hrest
      constructor
      · rw [State.run, State.run, hafter, hrun, hstep]
        cases state.step step <;> rfl
      · rw [List.foldl_cons, List.foldl_cons, hafter, hfold]

/-- Steps that concern rows change the tables only. -/
theorem foldl_after_eq {steps : List Step} (hrows : ∀ step ∈ steps, step.concernsRows = true)
    (hsaved : state.saved = none) :
    steps.foldl State.after state =
      { state with tables := (steps.foldl State.after state).tables } := by
  induction steps generalizing state with
  | nil => rfl
  | cons step rest ih =>
      have hafter : state.after step = { state with tables := (state.after step).tables } := by
        cases htaken : state.step step with
        | ok taken =>
            have hnext := eq_of_takes (takes_of_step htaken) (hrows step List.mem_cons_self)
            rwa [State.after, htaken]
        | error cause =>
            -- Without an open transaction there is nothing to roll back.
            have hsame : state.after step = state := by
              by_cases hfull : cause = .noIdLeft
              · subst hfull
                rw [after_of_noIdLeft htaken, rolledBack_of_saved_eq_none hsaved]
              · exact after_of_error htaken hfull
            rw [hsame]
      have hclosed : (state.after step).saved = none := by
        rw [hafter]
        exact hsaved
      have hrest := ih (fun other hother => hrows other (List.mem_cons_of_mem step hother)) hclosed
      rw [List.foldl_cons, hrest, hafter]

theorem after_begin (hsaved : state.saved = none) :
    state.after .begin = state.withSaved (some state.tables) := by
  obtain ⟨tables, folding, saved⟩ := state
  obtain rfl : saved = none := hsaved
  rfl

theorem run_begin (hsaved : state.saved = none) (rest : List Step) :
    state.run (.begin :: rest) = .ok .done :: (state.withSaved (some state.tables)).run rest := by
  rw [State.run, after_begin hsaved, State.step, hsaved]
  rfl

theorem run_rollback (state : State) (saved : Option Tables) (rest : List Step) :
    (state.withSaved (some saved)).run (.rollback :: rest) =
      .ok .done :: (state.withSaved (some saved)).rolledBack.run rest :=
  rfl

/-- Rolling back brings the store back that the transaction began with. -/
theorem rolledBack_withSaved {steps : List Step}
    (hrows : ∀ step ∈ steps, step.concernsRows = true) (hsaved : state.saved = none) :
    ((steps.foldl State.after state).withSaved (some state.tables)).rolledBack = state := by
  rw [foldl_after_eq hrows hsaved]
  obtain ⟨tables, folding, saved⟩ := state
  obtain rfl : saved = none := hsaved
  rfl

/-- **Failed steps and rolled-back transactions leave no trace.**  Later answers are as if a step
that fails had not been taken.  Only where no identifier is left, the open transaction, if there is
one, is rolled back as well.  Searches leave no trace whatever they find.  A transaction that
consists of inserts, deletes and searches and is rolled back leaves no trace either, if none of its
steps fails for want of identifiers; the answers in it are those that the steps have outside a
transaction, so that searches see the rows inserted before them.  A step in it that fails for want of
identifiers ends it, and neither leaves a trace. -/
theorem failures_leave_no_trace (state : State) (later : List Step) :
    (∀ step cause, state.step step = .error cause → (cause = .noIdLeft → state.saved = none) →
      state.run (step :: later) = .error cause :: state.run later) ∧
    (∀ step, state.step step = .error .noIdLeft →
      state.run (step :: later) = .error .noIdLeft :: state.rolledBack.run later) ∧
    (∀ criteria, state.run (.search criteria :: later) =
      .ok (.search (state.search criteria)) :: state.run later) ∧
    ∀ steps : List Step, state.saved = none → (∀ step ∈ steps, step.concernsRows = true) →
      .error .noIdLeft ∉ state.run steps →
        state.run (.begin :: (steps ++ .rollback :: later)) =
            .ok .done :: (state.run steps ++ .ok .done :: state.run later) ∧
          ∀ full, (steps.foldl State.after (state.after .begin)).step full = .error .noIdLeft →
            state.run (.begin :: (steps ++ full :: later)) =
              .ok .done :: (state.run steps ++ .error .noIdLeft :: state.run later) := by
  refine ⟨fun step cause hstep hcause => ?_, fun step hstep => ?_, fun criteria => rfl, ?_⟩
  · rw [run_cons_of_error hstep]
    by_cases hfull : cause = .noIdLeft
    · subst hfull
      rw [after_of_noIdLeft hstep, rolledBack_of_saved_eq_none (hcause rfl)]
    · rw [after_of_error hstep hfull]
  · rw [run_cons_of_error hstep, after_of_noIdLeft hstep]
  · intro steps hsaved hrows hleft
    obtain ⟨hanswers, hfold⟩ := run_withSaved hrows hleft (some state.tables)
    have hback := rolledBack_withSaved hrows hsaved
    constructor
    · rw [run_begin hsaved, run_append, hanswers, hfold, run_rollback, hback]
    · intro full hfull
      rw [after_begin hsaved, hfold] at hfull
      rw [run_begin hsaved, run_append, hanswers, hfold, run_cons_of_error hfull,
        after_of_noIdLeft hfull, hback]

/-- A channel is inserted, inserted again in vain, searched for and deleted. -/
def trial : List Step :=
  [.insertChannel none (.text "a") (.text "me"), .insertChannel none (.text "a") (.text "you"),
    .search { names := ["A"] }, .deleteChannel ⟨1⟩]

theorem failures_leave_no_trace_trial :
    .error .noIdLeft ∉ State.catalog.run trial ∧
      State.catalog.run
          (.begin :: (trial ++ [.rollback, .insertChannel none (.text "b") (.text "me")])) =
        .ok .done :: (State.catalog.run trial ++ [.ok .done, .ok (.number 1)]) := by
  obtain ⟨result, hrun⟩ : ∃ result, State.catalog.run trial = [.ok (.number 1),
      .error (.notUnique "channel.name"), .ok (.search result), .ok (.number 1)] := ⟨_, rfl⟩
  have hanswers : .error .noIdLeft ∉ State.catalog.run trial := by
    rw [hrun]
    simp
  obtain ⟨-, -, -, hrolledBack⟩ :=
    failures_leave_no_trace .catalog [.insertChannel none (.text "b") (.text "me")]
  exact ⟨hanswers, (hrolledBack trial rfl (by decide) hanswers).1⟩

/-- The largest identifier is stored, so that none is left for the channel after it. -/
def crowding : List Step :=
  [.insertChannel (some ⟨9223372036854775807⟩) (.text "a") (.text "me"),
    .insertChannel none (.text "b") (.text "me"),
    .insertChannel (some ⟨5⟩) (.text "c") (.text "me")]

/-- The transaction ends where no identifier is left, and the insertion after that is not rolled
back. -/
theorem crowding_leaves_trace :
    ((.begin :: (crowding ++ [.rollback])).foldl State.after .catalog).run
        [.insertChannel none (.text "d") (.text "me")] = [.ok (.number 6)] ∧
      State.catalog.run [.insertChannel none (.text "d") (.text "me")] = [.ok (.number 1)] :=
  ⟨rfl, rfl⟩

end State
end Store
end ChannelCatalog
