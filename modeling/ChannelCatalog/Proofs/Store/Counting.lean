import ChannelCatalog.Proofs.Store.Matching
import Mathlib.Data.List.Nodup
import Mathlib.Data.List.Perm.Subperm

/-!
# Counting names instead of joining rows

A query with several clauses looks for rows that pass any one of them and counts, for each
channel, the distinct folded names of these rows.  The count reaches the number of clauses only if
the names asked for are pairwise distinct and each of them is found; and then the row found for a
name can only have passed the clause with that name.  So the count tells whether every clause has
a row of the channel.
-/

namespace ChannelCatalog
namespace Store

/-- A list without repetitions that stays within another has the length of that one exactly when
the other has no repetitions either and nothing of it is missing. -/
theorem length_eq_iff_of_subset {α : Type} {found wanted : List α} (hfound : found.Nodup)
    (hwithin : found ⊆ wanted) :
    found.length = wanted.length ↔ wanted.Nodup ∧ wanted ⊆ found := by
  constructor
  · intro hlength
    have hperm : found.Perm wanted :=
      (hfound.subperm hwithin).perm_of_length_le (Nat.le_of_eq hlength.symm)
    exact ⟨hperm.nodup hfound, hperm.symm.subset⟩
  · rintro ⟨hwanted, hall⟩
    exact Nat.le_antisymm (hfound.length_le_of_subset hwithin) (hwanted.length_le_of_subset hall)

/-- A channel has a property that passes a test. -/
def Tables.HasRow (tables : Tables) (id : ChannelId) (test : PropertyRecord → Prop) : Prop :=
  ∃ property ∈ tables.properties, property.channel = some id ∧ test property

instance (tables : Tables) (id : ChannelId) (test : PropertyRecord → Prop) [DecidablePred test] :
    Decidable (tables.HasRow id test) :=
  inferInstanceAs (Decidable (∃ property ∈ tables.properties, _ ∧ _))

theorem Tables.hasRow_congr {tables : Tables} {id : ChannelId} {test other : PropertyRecord → Prop}
    (hiff : ∀ property ∈ tables.properties, test property ↔ other property) :
    tables.HasRow id test ↔ tables.HasRow id other := by
  refine exists_congr fun property => and_congr_right fun hmem => ?_
  rw [hiff property hmem]

/-- What a query asks of a channel.  Clauses whose names fold to the same text cannot all be met. -/
def Tables.Fits (tables : Tables) (folding : Folding) (id : ChannelId) : IdQuery → Prop
  | .counted clauses _ =>
    (clauses.map fun clause => folding.lower clause.name).Nodup ∧
      ∀ clause ∈ clauses, tables.HasRow id fun property => property.Passes folding clause
  | .tagLike pattern => tables.HasRow id fun property => property.IsTagLike folding pattern

/-- The folded names that are counted for a channel. -/
theorem mem_names_iff {folding : Folding} {properties : List PropertyRecord}
    {channel : Option ChannelId} {name : TextCell} :
    name ∈ distinct (((properties.filter fun property => property.channel = channel).map
        fun property => property.name.lower folding).filter (· ≠ .null)) ↔
      name ≠ .null ∧ ∃ property ∈ properties,
        property.channel = channel ∧ property.name.lower folding = name := by
  simp only [mem_distinct, List.mem_filter, List.mem_map, decide_eq_true_eq]
  constructor
  · rintro ⟨⟨property, ⟨hmem, hchannel⟩, hname⟩, hnull⟩
    exact ⟨hnull, property, hmem, hchannel, hname⟩
  · rintro ⟨hnull, property, hmem, hchannel, hname⟩
    exact ⟨⟨property, ⟨hmem, hchannel⟩, hname⟩, hnull⟩

/-- Counting the distinct names of the rows that pass some clause tells whether each clause has a
row. -/
theorem nameCount_eq_length_iff (tables : Tables) (folding : Folding) (id : ChannelId)
    (clauses : List Clause) {passing : List PropertyRecord}
    (hpassing : ∀ property, property ∈ passing ↔
      property ∈ tables.properties ∧ ∃ clause ∈ clauses, property.Passes folding clause)
    (required : Nat) :
    nameCount folding passing (some id) = clauses.length ↔
      tables.Fits folding id (.counted clauses required) := by
  let wanted := clauses.map fun clause => TextCell.text (folding.lower clause.name)
  have hwithin : distinct (((passing.filter fun property => property.channel = some id).map
      fun property => property.name.lower folding).filter (· ≠ .null)) ⊆ wanted := by
    intro name hname
    obtain ⟨-, property, hmem, -, rfl⟩ := mem_names_iff.1 hname
    obtain ⟨-, clause, hclause, hpasses⟩ := (hpassing property).1 hmem
    exact List.mem_map.2 ⟨clause, hclause, hpasses.isNamed.symm⟩
  have hcount := length_eq_iff_of_subset (nodup_distinct _) hwithin
  rw [show wanted.length = clauses.length from List.length_map _] at hcount
  have hwanted : wanted.Nodup ↔ (clauses.map fun clause => folding.lower clause.name).Nodup := by
    rw [show wanted = (clauses.map fun clause => folding.lower clause.name).map TextCell.text by
      simp [wanted]]
    exact List.nodup_map_iff fun a b h => TextCell.text.inj h
  rw [nameCount, hcount, hwanted]
  refine and_congr_right fun hdistinct => ⟨fun hfound clause hclause => ?_, fun hrows name hname => ?_⟩
  · have hname := hfound (List.mem_map.2 ⟨clause, hclause, rfl⟩)
    obtain ⟨-, property, hmem, hchannel, hnamed⟩ := mem_names_iff.1 hname
    obtain ⟨htable, other, hother, hpasses⟩ := (hpassing property).1 hmem
    -- The row passes some clause; by its name that can only be the clause looked for.
    have hsame : folding.lower other.name = folding.lower clause.name :=
      TextCell.text.inj (hpasses.isNamed.symm.trans hnamed)
    rw [List.inj_on_of_nodup_map hdistinct hother hclause hsame] at hpasses
    exact ⟨property, htable, hchannel, hpasses⟩
  · obtain ⟨clause, hclause, rfl⟩ := List.mem_map.1 hname
    obtain ⟨property, htable, hchannel, hpasses⟩ := hrows clause hclause
    refine mem_names_iff.2 ⟨by simp, property, ?_, hchannel, hpasses.isNamed⟩
    exact (hpassing property).2 ⟨htable, clause, hclause, hpasses⟩

/-- Reading a column of identifiers changes nothing but the type. -/
theorem readIds_eq_ok_iff {column : List (Option ChannelId)} {ids : List ChannelId} :
    readIds column = .ok ids ↔ column = ids.map some := by
  induction column generalizing ids with
  | nil => cases ids <;> simp [readIds]
  | cons cell rest ih =>
      cases cell with
      | none => cases ids <;> simp [readIds]
      | some id =>
          rw [readIds, bind_eq_ok_iff]
          cases ids with
          | nil => simp [pure, Except.pure]
          | cons first others => simp [ih, pure, Except.pure, and_comm]

theorem mem_of_readIds {column : List (Option ChannelId)} {ids : List ChannelId}
    (h : readIds column = .ok ids) (id : ChannelId) : id ∈ ids ↔ some id ∈ column := by
  rw [readIds_eq_ok_iff.1 h]
  simp

/-- The answer to a query with clauses names the channels that have a row for each clause. -/
theorem mem_fetchIds_counted {tables : Tables} {folding : Folding} {clauses : List Clause}
    {ids : List ChannelId} (hsome : clauses ≠ [])
    (h : tables.fetchIds folding (.counted clauses clauses.length) = .ok ids) (id : ChannelId) :
    id ∈ ids ↔ tables.Fits folding id (.counted clauses clauses.length) := by
  classical
  obtain ⟨passing, hselect, h⟩ := bind_eq_ok_iff.1 h
  have hpassing : ∀ property, property ∈ passing ↔
      property ∈ tables.properties ∧ ∃ clause ∈ clauses, property.Passes folding clause := by
    intro property
    rw [eq_filter_of_select (fun p => PropertyRecord.decides_passesAny folding p clauses) hselect]
    simp
  have hcount := nameCount_eq_length_iff tables folding id clauses hpassing clauses.length
  rw [mem_of_readIds h, List.mem_filter, decide_eq_true_eq, mem_distinct, hcount]
  refine and_iff_right_of_imp fun hfits => ?_
  obtain ⟨clause, hclause⟩ := List.exists_mem_of_ne_nil clauses hsome
  obtain ⟨property, htable, hchannel, hpasses⟩ := hfits.2 clause hclause
  exact List.mem_map.2
    ⟨property, (hpassing property).2 ⟨htable, clause, hclause, hpasses⟩, hchannel⟩

/-- The answer to a query for a tag pattern names the channels that have such a tag. -/
theorem mem_fetchIds_tagLike {tables : Tables} {folding : Folding} {pattern : String}
    {ids : List ChannelId} (h : tables.fetchIds folding (.tagLike pattern) = .ok ids)
    (id : ChannelId) : id ∈ ids ↔ tables.Fits folding id (.tagLike pattern) := by
  classical
  obtain ⟨passing, hselect, h⟩ := bind_eq_ok_iff.1 h
  rw [mem_of_readIds h, mem_distinct,
    eq_filter_of_select (fun p => PropertyRecord.decides_isTagLike folding p pattern) hselect]
  simp only [List.mem_map, List.mem_filter, decide_eq_true_eq, Tables.Fits, Tables.HasRow]
  constructor
  · rintro ⟨property, ⟨htable, htag⟩, hchannel⟩
    exact ⟨property, htable, hchannel, htag⟩
  · rintro ⟨property, htable, hchannel, htag⟩
    exact ⟨property, ⟨htable, htag⟩, hchannel⟩

/-- Every property belongs to some channel, be it a known one or not. -/
def Tables.Owned (tables : Tables) : Prop :=
  ∀ property ∈ tables.properties, property.channel ≠ none

instance (tables : Tables) : Decidable tables.Owned :=
  inferInstanceAs (Decidable (∀ property ∈ tables.properties, _))

theorem exists_readIds {column : List (Option ChannelId)} (hsome : none ∉ column) :
    ∃ ids, readIds column = .ok ids := by
  induction column with
  | nil => exact ⟨[], rfl⟩
  | cons cell rest ih =>
      obtain ⟨hcell, hrest⟩ := not_or.1 (mt List.mem_cons.2 hsome)
      obtain ⟨others, hothers⟩ := ih hrest
      cases cell with
      | none => exact absurd rfl hcell
      | some id => exact ⟨id :: others, by simp [readIds, hothers, bind, Except.bind]; rfl⟩

/-- A query with clauses is answered when no pattern is too long. -/
theorem exists_fetchIds_counted {tables : Tables} (folding : Folding) {clauses : List Clause}
    (required : Nat) (howned : tables.Owned)
    (hshort : ∀ clause ∈ clauses, ∀ pattern ∈ clause.patterns, Like.isTooLong pattern = false) :
    ∃ ids, tables.fetchIds folding (.counted clauses required) = .ok ids := by
  classical
  obtain ⟨passing, hselect⟩ :
      ∃ passing, select (fun p => p.passesAny folding clauses) tables.properties = .ok passing :=
    exists_select fun property _ => PropertyRecord.exists_passesAny folding property hshort
  have hsome : none ∉ (distinct (passing.map PropertyRecord.channel)).filter
      fun channel => nameCount folding passing channel = required := by
    intro hnone
    obtain ⟨property, hmem, hchannel⟩ :=
      List.mem_map.1 (mem_distinct.1 (List.mem_filter.1 hnone).1)
    rw [eq_filter_of_select
      (fun p => PropertyRecord.decides_passesAny folding p clauses) hselect] at hmem
    exact howned property (List.mem_filter.1 hmem).1 hchannel
  obtain ⟨ids, hids⟩ := exists_readIds hsome
  exact ⟨ids, bind_eq_ok_iff.2 ⟨passing, hselect, hids⟩⟩

/-- A query for a tag pattern is answered when the folded pattern is not too long. -/
theorem exists_fetchIds_tagLike {tables : Tables} {folding : Folding} {pattern : String}
    (howned : tables.Owned) (hshort : Like.isTooLong (folding.lower pattern) = false) :
    ∃ ids, tables.fetchIds folding (.tagLike pattern) = .ok ids := by
  classical
  obtain ⟨passing, hselect⟩ :
      ∃ passing, select (fun p => p.isTagLike folding pattern) tables.properties = .ok passing :=
    exists_select fun property _ => PropertyRecord.exists_isTagLike property hshort
  have hsome : none ∉ distinct (passing.map PropertyRecord.channel) := by
    intro hnone
    obtain ⟨property, hmem, hchannel⟩ := List.mem_map.1 (mem_distinct.1 hnone)
    rw [eq_filter_of_select
      (fun p => PropertyRecord.decides_isTagLike folding p pattern) hselect] at hmem
    exact howned property (List.mem_filter.1 hmem).1 hchannel
  obtain ⟨ids, hids⟩ := exists_readIds hsome
  exact ⟨ids, bind_eq_ok_iff.2 ⟨passing, hselect, hids⟩⟩

end Store
end ChannelCatalog
