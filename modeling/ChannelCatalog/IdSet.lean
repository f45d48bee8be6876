import ChannelCatalog.ChannelId

/-!
# Sets of channel identifiers

A set is kept as its strictly ascending list, so that equal sets are equal values and their
members have one order in statements and answers.
-/

namespace ChannelCatalog

/-- A finite set of identifiers. -/
structure IdSet where
  toList : List ChannelId
  ascending : toList.Pairwise (fun a b => a.key < b.key)

namespace IdSet

theorem toList_injective {s t : IdSet} (h : s.toList = t.toList) : s = t := by
  cases s
  cases t
  cases h
  rfl

/-- Puts an identifier into its place in an ascending list, unless it is there. -/
def insertInto (id : ChannelId) : List ChannelId → List ChannelId
  | [] => [id]
  | x :: xs =>
    if id.key < x.key then id :: x :: xs
    else if id = x then x :: xs
    else x :: insertInto id xs

theorem mem_insertInto {id y : ChannelId} {ids : List ChannelId} :
    y ∈ insertInto id ids ↔ y = id ∨ y ∈ ids := by
  induction ids with
  | nil => simp [insertInto]
  | cons x xs ih =>
    unfold insertInto
    split
    · simp
    · split
      · next h => subst h; simp
      · simp [ih]; grind

theorem pairwise_insertInto {id : ChannelId} {ids : List ChannelId}
    (h : ids.Pairwise (fun a b => a.key < b.key)) :
    (insertInto id ids).Pairwise (fun a b => a.key < b.key) := by
  induction ids with
  | nil => simp [insertInto]
  | cons x xs ih =>
    obtain ⟨hx, hxs⟩ := List.pairwise_cons.1 h
    unfold insertInto
    split
    · next hlt =>
      refine List.pairwise_cons.2 ⟨fun y hy => ?_, h⟩
      rcases List.mem_cons.1 hy with rfl | hy
      · exact hlt
      · exact Int64.lt_trans hlt (hx y hy)
    · next hlt =>
      split
      · exact h
      · next hne =>
        refine List.pairwise_cons.2 ⟨fun y hy => ?_, ih hxs⟩
        rcases mem_insertInto.1 hy with rfl | hy
        · have hk : y.key ≠ x.key := fun e => hne (by cases y; cases x; simp_all)
          exact Int64.lt_of_le_of_ne (Int64.not_lt.1 hlt) (Ne.symm hk)
        · exact hx y hy

instance : Membership ChannelId IdSet := ⟨fun s id => id ∈ s.toList⟩

instance (id : ChannelId) (s : IdSet) : Decidable (id ∈ s) :=
  inferInstanceAs (Decidable (id ∈ s.toList))

theorem mem_iff {id : ChannelId} {s : IdSet} : id ∈ s ↔ id ∈ s.toList := Iff.rfl

def empty : IdSet := ⟨[], List.Pairwise.nil⟩

def insert (id : ChannelId) (s : IdSet) : IdSet :=
  ⟨insertInto id s.toList, pairwise_insertInto s.ascending⟩

/-- The members of a list, each once. -/
def ofList (ids : List ChannelId) : IdSet :=
  ids.foldr insert empty

/-- The identifiers in both sets. -/
def inter (s t : IdSet) : IdSet :=
  ⟨s.toList.filter (· ∈ t), s.ascending.filter _⟩

def isEmpty (s : IdSet) : Bool :=
  s.toList.isEmpty

@[simp] theorem mem_insert {id y : ChannelId} {s : IdSet} :
    y ∈ s.insert id ↔ y = id ∨ y ∈ s :=
  mem_insertInto

@[simp] theorem mem_ofList {id : ChannelId} {ids : List ChannelId} :
    id ∈ ofList ids ↔ id ∈ ids := by
  induction ids with
  | nil => simp [ofList, empty, mem_iff]
  | cons x xs ih => simpa [ofList] using or_congr Iff.rfl ih

@[simp] theorem mem_inter {id : ChannelId} {s t : IdSet} :
    id ∈ s.inter t ↔ id ∈ s ∧ id ∈ t := by
  simp [inter, mem_iff]

end IdSet
end ChannelCatalog
