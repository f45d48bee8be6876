import ChannelCatalog.Search
import Mathlib.Data.List.Basic

/-!
# The running set of a search

A search keeps the channels that every answer so far has named.  Whatever the queries mean, the
set that is left after all of them holds exactly the channels that all of them name, and if the
search ends before, there is no such channel.
-/

namespace ChannelCatalog

theorem IdSet.isEmpty_eq_true_iff {ids : IdSet} : ids.isEmpty = true ↔ ∀ id, id ∉ ids := by
  rw [isEmpty, List.isEmpty_iff, List.eq_nil_iff_forall_not_mem]
  rfl

/-- A channel is in the running set, if there is one yet. -/
def InRunning (running : Option IdSet) (id : ChannelId) : Prop :=
  ∀ ids, running = some ids → id ∈ ids

theorem mem_narrow_iff {running : Option IdSet} {answer : List ChannelId} {id : ChannelId} :
    id ∈ narrow running answer ↔ InRunning running id ∧ id ∈ answer := by
  cases running with
  | none => simp [narrow, InRunning]
  | some ids => simp [narrow, InRunning]

theorem inRunning_some_iff {ids : IdSet} {id : ChannelId} : InRunning (some ids) id ↔ id ∈ ids := by
  simp [InRunning]

/-- What a restriction says about the channels that have a property `P`: it leaves exactly these,
and says so if there are none. -/
def Restriction.Leaves (P : ChannelId → Prop) : Restriction → Prop
  | .unrestricted => False
  | .only ids => ids.isEmpty = false ∧ ∀ id, id ∈ ids ↔ P id
  | .noMatch => ∀ id, ¬ P id

variable {ε : Type} {executor : Executor Id ε} {names : IdQuery → ChannelId → Prop}

/-- Asking one more query either fails, or leaves nothing, or goes on with the set narrowed. -/
theorem resolveFrom_cons_eq_ok {running : Option IdSet} {query : IdQuery} {rest : List IdQuery}
    {restriction : Restriction}
    (h : resolveFrom executor running (query :: rest) = .ok restriction) :
    ∃ answer, executor.fetchIds query = .ok answer ∧
      (((narrow running answer).isEmpty = true ∧ restriction = .noMatch) ∨
        ((narrow running answer).isEmpty = false ∧
          resolveFrom executor (some (narrow running answer)) rest = .ok restriction)) := by
  simp only [resolveFrom] at h
  cases hanswer : executor.fetchIds query with
  | error cause =>
      simp [hanswer, bind, pure] at h
  | ok answer =>
      refine ⟨answer, rfl, ?_⟩
      simp only [hanswer, bind, pure] at h
      split at h
      · rename_i hempty
        cases h
        exact Or.inl ⟨hempty, rfl⟩
      · rename_i hsome
        exact Or.inr ⟨Bool.eq_false_iff.2 hsome, h⟩

/-- If each query is answered by the channels that it names, then what is left of the running set
are the channels in it that all queries name. -/
theorem resolveFrom_leaves {queries : List IdQuery} {running : Option IdSet}
    {restriction : Restriction}
    (hanswers : ∀ query ∈ queries, ∀ answer, executor.fetchIds query = .ok answer →
      ∀ id, id ∈ answer ↔ names query id)
    (hrunning : ∀ ids, running = some ids → ids.isEmpty = false)
    (hsome : running ≠ none ∨ queries ≠ [])
    (h : resolveFrom executor running queries = .ok restriction) :
    restriction.Leaves fun id => InRunning running id ∧ ∀ query ∈ queries, names query id := by
  induction queries generalizing running with
  | nil =>
      cases h
      cases running with
      | none => simp at hsome
      | some ids => exact ⟨hrunning ids rfl, fun id => by simp [inRunning_some_iff]⟩
  | cons query rest ih =>
      obtain ⟨answer, hanswer, hnext⟩ := resolveFrom_cons_eq_ok h
      have hleft : ∀ id, id ∈ narrow running answer ↔ InRunning running id ∧ names query id := by
        intro id
        rw [mem_narrow_iff, hanswers query List.mem_cons_self answer hanswer]
      rcases hnext with ⟨hempty, rfl⟩ | ⟨hleftover, hrest⟩
      · rintro id ⟨hmem, hall⟩
        exact IdSet.isEmpty_eq_true_iff.1 hempty id
          ((hleft id).2 ⟨hmem, hall query List.mem_cons_self⟩)
      · have hend := ih (fun q hq => hanswers q (List.mem_cons_of_mem query hq))
          (fun ids hids => Option.some.inj hids ▸ hleftover) (Or.inl (by simp)) hrest
        simpa only [inRunning_some_iff, hleft, List.forall_mem_cons, and_assoc] using hend

/-- A search for channels fails only where a query does. -/
theorem exists_resolveFrom {queries : List IdQuery}
    (hanswers : ∀ query ∈ queries, ∃ answer, executor.fetchIds query = .ok answer)
    (running : Option IdSet) :
    ∃ restriction, resolveFrom executor running queries = .ok restriction := by
  induction queries generalizing running with
  | nil => exact ⟨_, rfl⟩
  | cons query rest ih =>
      obtain ⟨answer, hanswer⟩ := hanswers query List.mem_cons_self
      obtain ⟨restriction, hrest⟩ :=
        ih (fun q hq => hanswers q (List.mem_cons_of_mem query hq)) (some (narrow running answer))
      simp only [resolveFrom, hanswer, bind, pure]
      split
      · exact ⟨_, rfl⟩
      · exact ⟨restriction, hrest⟩

end ChannelCatalog
