import ChannelCatalog.Proofs.Store.Matching
import ChannelCatalog.Store.Limits

/-!
# How many name patterns a listing may have

The patterns for the channel name form a chain that nests by one for each of them.  Reading the
statement of a listing comes down to one bound on their number, which is a little smaller where
the channels are restricted to a set, since the set stands below all of the chain.
-/

namespace ChannelCatalog
namespace Store
namespace Limits

/-- The number of name patterns that a listing may have, by whether channels are restricted. -/
def maxNames (restricted : Bool) : Nat :=
  if restricted then 995 else 997

theorem takeSlot_eq_ok_iff {slots next : Nat} :
    takeSlot slots = .ok next ↔ slots < maxSlots ∧ next = slots + 1 := by
  unfold takeSlot
  split <;> grind

theorem operator_eq_ok_iff {left right depth : Nat} :
    operator left right = .ok depth ↔
      max left right < maxDepth ∧ depth = max left right + 1 := by
  unfold operator
  split <;> grind

theorem nest_eq_ok_iff {depth above : Nat} :
    nest depth above = .ok () ↔ above + depth ≤ maxDepth := by
  unfold nest
  split <;> simp_all

/-- Each further pattern takes one slot and nests the chain by one.  As long as there are no fewer
slots left than levels, it is the levels that run out. -/
theorem readLikes_eq_ok_iff {read result : Extent} (patterns : List String)
    (hdepth : likeDepth ≤ read.depth) (hbound : read.depth ≤ maxDepth)
    (hslots : read.slots + maxDepth ≤ maxSlots + read.depth) :
    readLikes read patterns = .ok result ↔
      read.depth + patterns.length ≤ maxDepth ∧
        result = ⟨read.slots + patterns.length, read.depth + patterns.length⟩ := by
  induction patterns generalizing read with
  | nil =>
      rw [readLikes, Except.ok.injEq]
      exact ⟨fun hread => ⟨hbound, hread.symm⟩, fun h => h.2.symm⟩
  | cons pattern rest ih =>
      -- The chain so far is the deeper operand, so it alone decides the next depth.
      have hmax : max read.depth likeDepth = read.depth := Nat.max_eq_left hdepth
      have hrest (hnext : read.depth < maxDepth) :
          readLikes ⟨read.slots + 1, read.depth + 1⟩ rest = .ok result ↔
            read.depth + 1 + rest.length ≤ maxDepth ∧
              result = ⟨read.slots + 1 + rest.length, read.depth + 1 + rest.length⟩ :=
        @ih ⟨read.slots + 1, read.depth + 1⟩ (Nat.le_succ_of_le hdepth) hnext
          (by dsimp only; omega)
      simp only [readLikes, bind_eq_ok_iff, takeSlot_eq_ok_iff, operator_eq_ok_iff, hmax,
        List.length_cons, Nat.add_comm rest.length 1, ← Nat.add_assoc]
      constructor
      · rintro ⟨slots, ⟨-, rfl⟩, depth, ⟨hnext, rfl⟩, h⟩
        exact (hrest hnext).1 h
      · rintro ⟨hend, hresult⟩
        have hnext : read.depth < maxDepth := by omega
        exact ⟨_, ⟨by omega, rfl⟩, _, ⟨hnext, rfl⟩, (hrest hnext).2 ⟨hend, hresult⟩⟩

/-- Patterns for the channel name are read, after at most one slot before them, when they are not
deeper than an expression may be. -/
theorem readPatterns_eq_ok_iff {slots other : Nat} {result : Extent} {pattern : String}
    {rest : List String} (hslots : slots ≤ 1) :
    readPatterns slots other (pattern :: rest) = .ok result ↔
      likeDepth + rest.length ≤ maxDepth ∧
        result = ⟨slots + 1 + rest.length, likeDepth + rest.length⟩ := by
  simp only [readPatterns, bind_eq_ok_iff, takeSlot_eq_ok_iff]
  have hfree : slots < maxSlots := Nat.lt_of_le_of_lt hslots (by decide)
  have hroom : slots + 1 + maxDepth ≤ maxSlots + likeDepth :=
    Nat.le_trans (Nat.add_le_add_right (Nat.succ_le_succ hslots) _) (by decide)
  have hread := @readLikes_eq_ok_iff ⟨slots + 1, likeDepth⟩ result rest (Nat.le_refl _)
    (by decide : likeDepth ≤ maxDepth) hroom
  constructor
  · rintro ⟨next, ⟨-, rfl⟩, h⟩
    exact hread.1 h
  · intro h
    exact ⟨_, ⟨hfree, rfl⟩, hread.2 h⟩

/-- The restrictions of a listing with name patterns: the chain of the patterns, and one level
more where it is joined to the set of channels. -/
theorem readRowQuery_eq_ok_iff {ids : Option IdSet} {pattern : String} {rest : List String}
    {depth : Nat} :
    readRowQuery ⟨ids, pattern :: rest⟩ = .ok depth ↔
      likeDepth + rest.length + (if ids.isSome then 1 else 0) ≤ maxDepth ∧
        depth = likeDepth + rest.length + (if ids.isSome then 1 else 0) := by
  simp only [readRowQuery, bind_eq_ok_iff]
  cases ids with
  | none =>
      simp only [readPatterns_eq_ok_iff (Nat.zero_le 1), Option.isSome_none, Bool.false_eq_true,
        if_false, Nat.add_zero]
      constructor
      · rintro ⟨named, ⟨hbound, rfl⟩, hdepth⟩
        cases hdepth
        exact ⟨hbound, rfl⟩
      · rintro ⟨hbound, rfl⟩
        exact ⟨_, ⟨hbound, rfl⟩, rfl⟩
  | some ids =>
      simp only [readPatterns_eq_ok_iff (Nat.le_refl 1), Option.isSome_some, if_true,
        operator_eq_ok_iff]
      have hmax : max membershipDepth (likeDepth + rest.length) = likeDepth + rest.length :=
        Nat.max_eq_right (Nat.le_add_right _ _)
      constructor
      · rintro ⟨named, ⟨-, rfl⟩, hbound, rfl⟩
        rw [hmax] at hbound ⊢
        exact ⟨hbound, rfl⟩
      · rintro ⟨hbound, rfl⟩
        exact ⟨_, ⟨Nat.le_of_succ_le hbound, rfl⟩, by rw [hmax]; exact hbound, by rw [hmax]⟩

/-- The comparison that joins the tables nests restrictions by one more, and the slot of a set
stands below that. -/
theorem readJoin_eq_ok_iff {query : RowQuery} {depth : Nat} (hdepth : joinDepth ≤ depth) :
    readJoin query depth = .ok () ↔
      depth + 1 + (if query.ids.isSome then slotDepth else 0) ≤ maxDepth := by
  have hmax : max depth joinDepth = depth := Nat.max_eq_left hdepth
  have hsome : depth ≠ 0 := Nat.pos_iff_ne_zero.1 (Nat.lt_of_lt_of_le (by decide) hdepth)
  simp only [readJoin, hsome, if_false, bind_eq_ok_iff, operator_eq_ok_iff, hmax]
  cases query.ids with
  | none =>
      constructor
      · rintro ⟨joined, ⟨hbound, -⟩, -⟩
        exact hbound
      · intro hbound
        exact ⟨_, ⟨hbound, rfl⟩, rfl⟩
  | some ids =>
      simp only [Option.isSome_some, if_true, nest_eq_ok_iff]
      constructor
      · rintro ⟨joined, ⟨-, rfl⟩, hbound⟩
        exact hbound
      · intro hbound
        exact ⟨_, ⟨Nat.le_of_add_right_le hbound, rfl⟩, hbound⟩

/-- The statement of a listing is accepted exactly when it does not have too many name patterns. -/
theorem listing_accepted_iff (query : RowQuery) :
    (∃ depth, readRowQuery query = .ok depth ∧ readJoin query depth = .ok ()) ↔
      query.names.length ≤ maxNames query.ids.isSome := by
  obtain ⟨ids, names⟩ := query
  cases names with
  | nil =>
      cases ids with
      | none => exact iff_of_true ⟨0, rfl, rfl⟩ (Nat.zero_le _)
      | some ids => exact iff_of_true ⟨membershipDepth, rfl, rfl⟩ (Nat.zero_le _)
  | cons pattern rest =>
      -- A chain of one pattern is already as deep as the comparison that joins the tables.
      have hdeep : joinDepth ≤ likeDepth + rest.length + (if ids.isSome then 1 else 0) :=
        Nat.le_trans (Nat.le_add_right joinDepth rest.length) (Nat.le_add_right _ _)
      simp only [readRowQuery_eq_ok_iff, and_assoc, exists_and_left, exists_eq_left,
        readJoin_eq_ok_iff hdeep]
      simp only [likeDepth, slotDepth, maxDepth, maxNames, List.length_cons]
      cases ids with
      | none => simp; omega
      | some ids => simp; omega

end Limits
end Store
end ChannelCatalog
