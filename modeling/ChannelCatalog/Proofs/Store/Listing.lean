import ChannelCatalog.Proofs.Store.Order
import ChannelCatalog.Proofs.Store.Validity
import Mathlib.Data.List.Flatten
import Mathlib.Data.List.Perm.Basic

/-!
# What a listing holds

A listing joins channels to their properties and sorts the lines.  Under the reference schema the
two columns of the order tell all lines apart.  So the sorted listing is the same as taking the
channels in the order of their names, and of each channel its properties in the order of theirs
(`Tables.Lists`).
-/

namespace ChannelCatalog
namespace Store

/-- The cell of a value that may be absent. -/
def TextCell.ofOption : Option String → TextCell
  | none => .null
  | some value => .text value

theorem TextCell.ofOption_injective : Function.Injective TextCell.ofOption := by
  intro value other h
  cases value <;> cases other <;> simp_all [ofOption]

@[simp] theorem TextCell.ofOption_inj {value other : Option String} :
    ofOption value = ofOption other ↔ value = other :=
  ofOption_injective.eq_iff

@[simp] theorem TextCell.ofOption_eq_text_iff {value : Option String} {content : String} :
    ofOption value = .text content ↔ value = some content := by
  cases value <;> simp [ofOption]

@[simp] theorem TextCell.ofOption_eq_null_iff {value : Option String} :
    ofOption value = .null ↔ value = none := by
  cases value <;> simp [ofOption]

/-- The line of cells that a row was read from. -/
def Row.cells (row : Row) : JoinedRow :=
  ⟨.text row.channelName, .text row.channelOwner, .ofOption row.propertyName,
    .ofOption row.propertyValue, .ofOption row.propertyOwner⟩

/-- A cell that holds a text or nothing. -/
def TextCell.IsTextual : TextCell → Prop
  | .blob _ => False
  | _ => True

instance : DecidablePred TextCell.IsTextual
  | .null => isTrue trivial
  | .text _ => isTrue trivial
  | .blob _ => isFalse id

/-- All cells of the tables hold texts or nothing. -/
structure Tables.IsTextual (tables : Tables) : Prop where
  channels : ∀ channel ∈ tables.channels, channel.name.IsTextual ∧ channel.owner.IsTextual
  properties : ∀ property ∈ tables.properties,
    property.name.IsTextual ∧ property.value.IsTextual ∧ property.owner.IsTextual

/-! ## Reading lines -/

namespace TextCell

theorem read_eq_ok_iff {cell : TextCell} {index : Nat} {column value : String} :
    cell.read index column = .ok value ↔ cell = .text value := by
  cases cell <;> simp [read]

theorem readOptional_eq_ok_iff {cell : TextCell} {index : Nat} {column : String}
    {value : Option String} :
    cell.readOptional index column = .ok value ↔ cell = .ofOption value := by
  cases cell with
  | null => cases value <;> simp [readOptional, ofOption]
  | text content => cases value <;> simp [readOptional, ofOption]
  | blob bytes => cases value <;> simp [readOptional, ofOption]

theorem IsTextual.exists_eq_text {cell : TextCell} (htext : cell.IsTextual) (hsome : cell ≠ .null) :
    ∃ value, cell = .text value := by
  cases cell with
  | null => exact absurd rfl hsome
  | text value => exact ⟨value, rfl⟩
  | blob bytes => exact htext.elim

theorem IsTextual.exists_eq_ofOption {cell : TextCell} (htext : cell.IsTextual) :
    ∃ value, cell = .ofOption value := by
  cases cell with
  | null => exact ⟨none, rfl⟩
  | text value => exact ⟨some value, rfl⟩
  | blob bytes => exact htext.elim

end TextCell

/-- A line is read as the row of its cells. -/
theorem JoinedRow.read_eq_ok_iff {line : JoinedRow} {row : Row} :
    line.read = .ok row ↔ line = Row.cells row := by
  obtain ⟨channelName, channelOwner, propertyName, propertyValue, propertyOwner⟩ := line
  simp only [JoinedRow.read, bind_eq_ok_iff, TextCell.read_eq_ok_iff,
    TextCell.readOptional_eq_ok_iff, Row.cells, JoinedRow.mk.injEq]
  constructor
  · rintro ⟨name, rfl, owner, rfl, property, rfl, value, rfl, last, rfl, hrow⟩
    cases hrow
    exact ⟨rfl, rfl, rfl, rfl, rfl⟩
  · rintro ⟨rfl, rfl, rfl, rfl, rfl⟩
    exact ⟨_, rfl, _, rfl, _, rfl, _, rfl, _, rfl, rfl⟩

theorem readRows_eq_ok_iff {lines : List JoinedRow} {rows : List Row} :
    readRows lines = .ok rows ↔ lines = rows.map Row.cells := by
  induction lines generalizing rows with
  | nil => cases rows <;> simp [readRows]
  | cons line rest ih =>
      rw [readRows, bind_eq_ok_iff]
      simp only [bind_eq_ok_iff, JoinedRow.read_eq_ok_iff, ih]
      constructor
      · rintro ⟨row, rfl, others, rfl, hrows⟩
        cases hrows
        rfl
      · intro hlines
        cases rows with
        | nil => cases hlines
        | cons row others =>
            obtain ⟨rfl, rfl⟩ := List.cons.inj hlines
            exact ⟨row, rfl, others, rfl, rfl⟩

/-- Lines can be read when each of them is the line of a row. -/
theorem exists_readRows {lines : List JoinedRow}
    (hlines : ∀ line ∈ lines, ∃ row, line = Row.cells row) :
    ∃ rows, readRows lines = .ok rows := by
  induction lines with
  | nil => exact ⟨[], rfl⟩
  | cons line rest ih =>
      obtain ⟨row, rfl⟩ := hlines line List.mem_cons_self
      obtain ⟨others, hothers⟩ := ih fun l hl => hlines l (List.mem_cons_of_mem _ hl)
      refine ⟨row :: others, readRows_eq_ok_iff.2 ?_⟩
      rw [readRows_eq_ok_iff.1 hothers, List.map_cons]

/-! ## Lines in order -/

/-- The lines of a channel with the given properties: one for each of them, or one without a
property if there are none. -/
def ChannelRecord.linesWith (channel : ChannelRecord) : List PropertyRecord → List JoinedRow
  | [] => [⟨channel.name, channel.owner, .null, .null, .null⟩]
  | own => own.map fun property =>
    ⟨channel.name, channel.owner, property.name, property.value, property.owner⟩

/-- The names of two records stand in ascending order of their bytes. -/
def Ascending {α : Type} (name : α → TextCell) (records : List α) : Prop :=
  records.Pairwise fun a b => (name a).bytes < (name b).bytes

/-- The rows list the wanted channels by ascending names, and for each of them its properties by
ascending names. -/
def Tables.Lists (tables : Tables) (wanted : ChannelRecord → Prop) (rows : List Row) : Prop :=
  ∃ (channels : List ChannelRecord) (own : ChannelRecord → List PropertyRecord),
    (∀ channel, channel ∈ channels ↔ channel ∈ tables.channels ∧ wanted channel) ∧
    Ascending ChannelRecord.name channels ∧
    (∀ channel ∈ channels, Ascending PropertyRecord.name (own channel) ∧ ∀ property,
      property ∈ own channel ↔
        property ∈ tables.properties ∧ property.channel = some channel.id) ∧
    rows.map Row.cells = channels.flatMap fun channel => channel.linesWith (own channel)

/-- Records with distinct names that are texts can be put into an order in which each name comes
before the next, both as a cell and by its bytes. -/
theorem exists_ascending {α : Type} {name : α → TextCell} {records : List α}
    (hdistinct : (records.map name).Nodup) (htexts : ∀ record ∈ records, ∃ s, name record = .text s) :
    ∃ sorted, sorted.Perm records ∧ Ascending name sorted ∧
      sorted.Pairwise fun a b => (name a).le (name b) = true ∧ name a ≠ name b := by
  -- Sorting gives the order of cells; that no two names agree makes it strict.
  let sorted := records.mergeSort fun a b => (name a).le (name b)
  have hperm : sorted.Perm records := List.mergeSort_perm _ _
  have htrans : ∀ a b c, (name a).le (name b) = true → (name b).le (name c) = true →
      (name a).le (name c) = true := fun _ _ _ => TextCell.le_of_le_of_le
  have htotal : ∀ a b, ((name a).le (name b) || (name b).le (name a)) = true := fun a b =>
    Bool.or_eq_true _ _ ▸ TextCell.le_or_le (name a) (name b)
  have hle : sorted.Pairwise fun a b => (name a).le (name b) = true :=
    List.pairwise_mergeSort htrans htotal records
  have hne : sorted.Pairwise fun a b => name a ≠ name b :=
    List.pairwise_map.1 ((hperm.map name).nodup_iff.2 hdistinct)
  have hboth := hle.and hne
  refine ⟨sorted, hperm, hboth.imp_of_mem ?_, hboth⟩
  intro a b ha hb ⟨hab, hdiffer⟩
  obtain ⟨s, hs⟩ := htexts a (hperm.mem_iff.1 ha)
  obtain ⟨t, ht⟩ := htexts b (hperm.mem_iff.1 hb)
  rw [hs, ht] at hab hdiffer ⊢
  exact TextCell.bytes_lt_bytes hab fun hsame => hdiffer (congrArg TextCell.text hsame)

/-- Each member of a list that is related to another, one by one, has its counterpart there. -/
theorem exists_mem_of_forall₂ {α β : Type} {R : α → β → Prop} {xs : List α} {ys : List β}
    (h : List.Forall₂ R xs ys) : ∀ y ∈ ys, ∃ x ∈ xs, R x y := by
  induction h with
  | nil => simp
  | cons hhead _ ih =>
      rw [List.forall_mem_cons]
      refine ⟨⟨_, List.mem_cons_self, hhead⟩, fun y hy => ?_⟩
      obtain ⟨x, hx, hR⟩ := ih y hy
      exact ⟨x, List.mem_cons_of_mem _ hx, hR⟩

/-- A line stands strictly before another in the order of the listing. -/
def JoinedRow.Before (a b : JoinedRow) : Prop :=
  a.le b = true ∧ ¬ (a.channelName = b.channelName ∧ a.propertyName = b.propertyName)

/-- A list in strict order is what sorting makes of any list with the same lines. -/
theorem mergeSort_eq_of_pairwise_before {lines sorted : List JoinedRow}
    (hperm : sorted.Perm lines) (hbefore : sorted.Pairwise JoinedRow.Before) :
    lines.mergeSort JoinedRow.le = sorted := by
  have hmerged : (lines.mergeSort JoinedRow.le).Perm sorted :=
    (List.mergeSort_perm _ _).trans hperm.symm
  have htrans : ∀ a b c : JoinedRow, a.le b = true → b.le c = true → a.le c = true :=
    fun _ _ _ => JoinedRow.le_of_le_of_le
  have htotal : ∀ a b : JoinedRow, (a.le b || b.le a) = true := fun a b =>
    Bool.or_eq_true _ _ ▸ JoinedRow.le_or_le a b
  have hle : (lines.mergeSort JoinedRow.le).Pairwise fun a b => a.le b = true :=
    List.pairwise_mergeSort htrans htotal lines
  have hkeys : (sorted.map fun line => (line.channelName, line.propertyName)).Nodup := by
    refine List.pairwise_map.2 (hbefore.imp fun hab hsame => hab.2 ?_)
    exact Prod.mk.inj hsame
  -- Two sorted lists of the same lines are equal if no two lines stand in the same place.
  refine hmerged.eq_of_pairwise (fun a b ha hb hab hba => ?_) hle (hbefore.imp And.left)
  have hnames := JoinedRow.names_eq_of_le_of_le hab hba
  exact List.inj_on_of_nodup_map hkeys (hmerged.mem_iff.1 ha) hb (Prod.ext hnames.1 hnames.2)

theorem ChannelRecord.join_eq (channel : ChannelRecord) (properties : List PropertyRecord) :
    channel.join properties =
      channel.linesWith (properties.filter fun property => property.channel = some channel.id) := by
  unfold ChannelRecord.join
  cases properties.filter fun property => property.channel = some channel.id with
  | nil => rfl
  | cons first rest => rfl

/-- The lines of a channel carry its name. -/
theorem ChannelRecord.channelName_of_mem_linesWith {channel : ChannelRecord}
    {own : List PropertyRecord} {line : JoinedRow} (h : line ∈ channel.linesWith own) :
    line.channelName = channel.name := by
  cases own with
  | nil =>
      rw [List.mem_singleton.1 h]
  | cons first rest =>
      obtain ⟨property, -, rfl⟩ := List.mem_map.1 h
      rfl

theorem ChannelRecord.channelOwner_of_mem_linesWith {channel : ChannelRecord}
    {own : List PropertyRecord} {line : JoinedRow} (h : line ∈ channel.linesWith own) :
    line.channelOwner = channel.owner := by
  cases own with
  | nil =>
      rw [List.mem_singleton.1 h]
  | cons first rest =>
      obtain ⟨property, -, rfl⟩ := List.mem_map.1 h
      rfl

theorem ChannelRecord.linesWith_ne_nil (channel : ChannelRecord) (own : List PropertyRecord) :
    channel.linesWith own ≠ [] := by
  cases own <;> simp [linesWith]

theorem ChannelRecord.channelName_of_mem_join {channel : ChannelRecord}
    {properties : List PropertyRecord} {line : JoinedRow} (h : line ∈ channel.join properties) :
    line.channelName = channel.name :=
  channelName_of_mem_linesWith (channel.join_eq properties ▸ h)

theorem ChannelRecord.join_ne_nil (channel : ChannelRecord) (properties : List PropertyRecord) :
    channel.join properties ≠ [] := by
  rw [join_eq]
  exact channel.linesWith_ne_nil _

/-- The line of a channel with one of its properties. -/
def ChannelRecord.line (channel : ChannelRecord) (property : PropertyRecord) : JoinedRow :=
  ⟨channel.name, channel.owner, property.name, property.value, property.owner⟩

/-- The lines of a channel that carry a property are those with its properties. -/
theorem ChannelRecord.exists_mem_linesWith_iff {channel : ChannelRecord} {own : List PropertyRecord}
    {P : JoinedRow → Prop} (hcarries : ∀ line, P line → line.propertyName ≠ .null) :
    (∃ line ∈ channel.linesWith own, P line) ↔ ∃ property ∈ own, P (channel.line property) := by
  cases own with
  | nil =>
      refine iff_of_false ?_ (by simp)
      rintro ⟨line, hline, hP⟩
      rw [List.mem_singleton.1 hline] at hP
      exact hcarries _ hP rfl
  | cons first rest => simp only [linesWith, line, List.mem_map, exists_exists_and_eq_and]

theorem ChannelRecord.line_mem_join {channel : ChannelRecord} {properties : List PropertyRecord}
    {property : PropertyRecord} (hmem : property ∈ properties)
    (hchannel : property.channel = some channel.id) :
    channel.line property ∈ channel.join properties := by
  have hown : property ∈ properties.filter fun property => property.channel = some channel.id :=
    List.mem_filter.2 ⟨hmem, decide_eq_true hchannel⟩
  rw [join_eq]
  generalize properties.filter (fun property => property.channel = some channel.id) = own at hown
  cases own with
  | nil => cases hown
  | cons first rest => exact List.mem_map.2 ⟨property, hown, rfl⟩

theorem ChannelRecord.linesWith_perm (channel : ChannelRecord) {own others : List PropertyRecord}
    (hperm : own.Perm others) : (channel.linesWith own).Perm (channel.linesWith others) := by
  cases own with
  | nil =>
      rw [hperm.nil_eq]
  | cons first rest =>
      cases others with
      | nil => exact absurd hperm.eq_nil (List.cons_ne_nil first rest)
      | cons second last =>
          unfold linesWith
          exact hperm.map _

/-- A line of a stored channel with stored properties can be read. -/
theorem exists_row_of_mem_linesWith {tables : Tables} (hvalid : tables.Valid)
    (htextual : tables.IsTextual) {channel : ChannelRecord} (hchannel : channel ∈ tables.channels)
    {own : List PropertyRecord} (hown : ∀ property ∈ own, property ∈ tables.properties)
    {line : JoinedRow} (hline : line ∈ channel.linesWith own) : ∃ row, line = Row.cells row := by
  obtain ⟨hnamed, howned⟩ := hvalid.named channel hchannel
  obtain ⟨hnameText, hownerText⟩ := htextual.channels channel hchannel
  obtain ⟨name, hname⟩ := hnameText.exists_eq_text hnamed
  obtain ⟨owner, howner⟩ := hownerText.exists_eq_text howned
  cases own with
  | nil =>
      rw [List.mem_singleton.1 hline, hname, howner]
      exact ⟨⟨name, owner, none, none, none⟩, rfl⟩
  | cons first rest =>
      obtain ⟨property, hmem, rfl⟩ := List.mem_map.1 hline
      obtain ⟨hname', hvalue, howner'⟩ := htextual.properties property (hown property hmem)
      obtain ⟨propertyName, hpropertyName⟩ := hname'.exists_eq_ofOption
      obtain ⟨propertyValue, hpropertyValue⟩ := hvalue.exists_eq_ofOption
      obtain ⟨propertyOwner, hpropertyOwner⟩ := howner'.exists_eq_ofOption
      rw [hname, howner, hpropertyName, hpropertyValue, hpropertyOwner]
      exact ⟨⟨name, owner, propertyName, propertyValue, propertyOwner⟩, rfl⟩

/-- The lines of a channel are in strict order if its properties are. -/
theorem ChannelRecord.pairwise_before_linesWith (channel : ChannelRecord)
    {own : List PropertyRecord}
    (hown : own.Pairwise fun a b => a.name.le b.name = true ∧ a.name ≠ b.name) :
    (channel.linesWith own).Pairwise JoinedRow.Before := by
  cases own with
  | nil => exact List.pairwise_singleton _ _
  | cons first rest =>
      refine List.pairwise_map.2 (hown.imp fun hab => ⟨?_, fun hsame => hab.2 hsame.2⟩)
      exact JoinedRow.le_iff.2 (Or.inl ⟨rfl, hab.1⟩)

/-- The lines of channels in strict order, each with its lines in strict order, are in strict
order. -/
theorem pairwise_before_flatMap {channels : List ChannelRecord}
    {own : ChannelRecord → List PropertyRecord}
    (hchannels : channels.Pairwise fun a b => a.name.le b.name = true ∧ a.name ≠ b.name)
    (hown : ∀ channel ∈ channels,
      (own channel).Pairwise fun a b => a.name.le b.name = true ∧ a.name ≠ b.name) :
    (channels.flatMap fun channel => channel.linesWith (own channel)).Pairwise
      JoinedRow.Before := by
  refine List.pairwise_flatMap.2 ⟨fun channel hmem => ?_, hchannels.imp fun hab line hline other
    hother => ?_⟩
  · -- Lines of one channel are told apart by the property,
    exact channel.pairwise_before_linesWith (hown channel hmem)
  · -- and lines of two channels by the channel.
    have hfirst := ChannelRecord.channelName_of_mem_linesWith hline
    have hsecond := ChannelRecord.channelName_of_mem_linesWith hother
    rw [JoinedRow.Before, JoinedRow.le_iff, hfirst, hsecond]
    exact ⟨Or.inr ⟨hab.2, hab.1⟩, fun hsame => hab.2 hsame.1⟩

/-! ## The answer to a query for rows -/

/-- A channel is to be listed: it is one of the given channels, if these are restricted, and its
name is like one of the patterns, if there are any. -/
def ChannelRecord.IsListed (channel : ChannelRecord) (query : RowQuery) : Prop :=
  (∀ ids, query.ids = some ids → channel.id ∈ ids) ∧
    (query.names ≠ [] → ∃ pattern ∈ query.names, channel.name.Likes pattern)

theorem ChannelRecord.decides_isListed (channel : ChannelRecord) (query : RowQuery) :
    Decides (channel.isListed query) (channel.IsListed query) := by
  intro passed h
  have hids : (query.ids.any fun ids => channel.id ∉ ids) = true ↔
      ¬ ∀ ids, query.ids = some ids → channel.id ∈ ids := by
    cases query.ids <;> simp
  unfold isListed at h
  split at h
  · rename_i hout
    cases h
    simp [IsListed, hids.1 hout]
  · rename_i hin
    have hin : ∀ ids, query.ids = some ids → channel.id ∈ ids := not_not.1 (mt hids.2 hin)
    split at h
    · rename_i hnone
      cases h
      simpa [IsListed, List.isEmpty_iff.1 hnone] using hin
    · rename_i hsome
      have hsome : query.names ≠ [] := fun hnone => hsome (List.isEmpty_iff.2 hnone)
      have hlike := TextCell.decides_isLikeAny channel.name query.names passed h
      rw [hlike, IsListed]
      exact ⟨fun hany => ⟨hin, fun _ => hany⟩, fun hboth => hboth.2 hsome⟩

theorem ChannelRecord.exists_isListed (channel : ChannelRecord) {query : RowQuery}
    (hshort : ∀ pattern ∈ query.names, Like.isTooLong pattern = false) :
    ∃ passed, channel.isListed query = .ok passed := by
  unfold isListed
  split
  · exact ⟨false, rfl⟩
  · split
    · exact ⟨true, rfl⟩
    · exact channel.name.exists_isLikeAny hshort

namespace Tables

variable {tables : Tables}

theorem propertiesFor_of_reference (hschema : tables.schema = .reference) (query : RowQuery) :
    tables.propertiesFor query = tables.properties := by
  unfold propertiesFor
  rw [hschema]

/-- The properties of one channel have distinct names. -/
theorem Valid.nodup_names (hvalid : tables.Valid) (id : ChannelId) :
    ((tables.properties.filter fun property => property.channel = some id).map
      PropertyRecord.name).Nodup := by
  have hkept : (tables.properties.filter fun property => property.channel = some id).Sublist
      tables.properties := List.filter_sublist
  have hkeys := hvalid.distinctProperties.sublist (hkept.map _)
  refine List.pairwise_map.2 ((List.pairwise_map.1 hkeys).imp_of_mem ?_)
  intro a b ha hb hdiffer hname
  have hfirst : a.channel = some id := by simpa using (List.mem_filter.1 ha).2
  have hsecond : b.channel = some id := by simpa using (List.mem_filter.1 hb).2
  exact hdiffer (by rw [hfirst, hsecond, hname])

/-- Sorting the lines of channels gives the channels in order, each with its properties in
order. -/
theorem exists_mergeSort_eq (hvalid : tables.Valid) (htextual : tables.IsTextual)
    {listed : List ChannelRecord} (hlisted : listed.Sublist tables.channels) :
    ∃ (channels : List ChannelRecord) (own : ChannelRecord → List PropertyRecord),
      channels.Perm listed ∧ Ascending ChannelRecord.name channels ∧
      (∀ channel, Ascending PropertyRecord.name (own channel) ∧ ∀ property,
        property ∈ own channel ↔
          property ∈ tables.properties ∧ property.channel = some channel.id) ∧
      (listed.flatMap fun channel => channel.join tables.properties).mergeSort JoinedRow.le =
        channels.flatMap fun channel => channel.linesWith (own channel) := by
  have hnames : ∀ channel ∈ listed, ∃ s, channel.name = .text s := fun channel hmem =>
    (htextual.channels channel (hlisted.mem hmem)).1.exists_eq_text
      (hvalid.named channel (hlisted.mem hmem)).1
  obtain ⟨channels, hperm, hascending, hchannels⟩ :=
    exists_ascending (hvalid.distinctNames.sublist (hlisted.map _)) hnames
  have hsorted : ∀ channel : ChannelRecord, ∃ own : List PropertyRecord,
      own.Perm (tables.properties.filter fun property => property.channel = some channel.id) ∧
      Ascending PropertyRecord.name own ∧
      own.Pairwise fun a b => a.name.le b.name = true ∧ a.name ≠ b.name := by
    refine fun channel => exists_ascending (hvalid.nodup_names channel.id) fun property hmem => ?_
    have hmem := (List.mem_filter.1 hmem).1
    exact (htextual.properties property hmem).1.exists_eq_text (hvalid.belongs property hmem).1
  -- The order of the properties is chosen for every channel, listed or not.
  choose own hownPerm hownAscending hownStrict using hsorted
  refine ⟨channels, own, hperm, hascending, fun channel => ⟨hownAscending channel, ?_⟩, ?_⟩
  · intro property
    rw [(hownPerm channel).mem_iff, List.mem_filter, decide_eq_true_eq]
  · refine mergeSort_eq_of_pairwise_before ?_
      (pairwise_before_flatMap hchannels fun channel _ => hownStrict channel)
    refine hperm.flatMap fun channel _ => ?_
    rw [ChannelRecord.join_eq]
    exact ChannelRecord.linesWith_perm channel (hownPerm channel)

/-- What a query for rows answers is the listing of the channels that it asks for. -/
theorem lists_of_fetchRows (hvalid : tables.Valid) (htextual : tables.IsTextual)
    {query : RowQuery} {rows : List Row} (h : tables.fetchRows query = .ok rows) :
    tables.Lists (fun channel => channel.IsListed query) rows := by
  classical
  obtain ⟨listed, hselect, h⟩ := bind_eq_ok_iff.1 h
  have hlisted : listed = tables.channels.filter fun channel => channel.IsListed query :=
    eq_filter_of_select (fun channel => channel.decides_isListed query) hselect
  obtain ⟨channels, own, hperm, hascending, hown, hlines⟩ :=
    exists_mergeSort_eq hvalid htextual (hlisted ▸ List.filter_sublist)
  dsimp only at h
  rw [propertiesFor_of_reference hvalid.schema, hlines, readRows_eq_ok_iff] at h
  refine ⟨channels, own, fun channel => ?_, hascending, fun channel _ => hown channel, h.symm⟩
  rw [hperm.mem_iff, hlisted, List.mem_filter, decide_eq_true_eq]

/-- A query for rows is answered when no pattern is too long. -/
theorem exists_fetchRows (hvalid : tables.Valid) (htextual : tables.IsTextual) {query : RowQuery}
    (hshort : ∀ pattern ∈ query.names, Like.isTooLong pattern = false) :
    ∃ rows, tables.fetchRows query = .ok rows := by
  classical
  obtain ⟨listed, hselect⟩ :
      ∃ listed, select (fun channel => channel.isListed query) tables.channels = .ok listed :=
    exists_select fun channel _ => channel.exists_isListed hshort
  have hlisted : listed = tables.channels.filter fun channel => channel.IsListed query :=
    eq_filter_of_select (fun channel => channel.decides_isListed query) hselect
  have hreadable : ∀ line ∈ (listed.flatMap fun channel =>
      channel.join tables.properties).mergeSort JoinedRow.le, ∃ row, line = Row.cells row := by
    intro line hline
    obtain ⟨channel, hmem, hline⟩ :=
      List.mem_flatMap.1 ((List.mergeSort_perm _ _).mem_iff.1 hline)
    rw [ChannelRecord.join_eq] at hline
    have hchannel : channel ∈ tables.channels := by
      rw [hlisted] at hmem
      exact (List.mem_filter.1 hmem).1
    exact exists_row_of_mem_linesWith hvalid htextual hchannel
      (fun property hown => (List.mem_filter.1 hown).1) hline
  obtain ⟨rows, hrows⟩ := exists_readRows hreadable
  refine ⟨rows, bind_eq_ok_iff.2 ⟨listed, hselect, ?_⟩⟩
  dsimp only
  rw [propertiesFor_of_reference hvalid.schema]
  exact hrows

end Tables

/-! ## The listing is determined -/

theorem Row.cells_injective : Function.Injective Row.cells := by
  intro row other h
  obtain ⟨⟩ := row
  obtain ⟨⟩ := other
  simp only [Row.cells, JoinedRow.mk.injEq, TextCell.text.injEq, TextCell.ofOption_inj] at h
  simp only [Row.mk.injEq]
  exact h

theorem Ascending.nodup {α : Type} {name : α → TextCell} {records : List α}
    (h : Ascending name records) : records.Nodup := by
  refine h.imp ?_
  rintro a _ hlt rfl
  exact List.lt_irrefl _ hlt

/-- Records in ascending order keep their order among more of them. -/
theorem Ascending.sublist_of_subset {α : Type} {name : α → TextCell} {records others : List α}
    (h : Ascending name records) (hothers : Ascending name others) (hsubset : records ⊆ others) :
    records.Sublist others := by
  obtain ⟨kept, hperm, hkept⟩ := List.subperm_of_subset h.nodup hsubset
  have hsame : kept = records :=
    hperm.eq_of_pairwise (fun a b _ _ hab hba => absurd hab (List.lt_asymm hba))
      (hothers.sublist hkept) h
  exact hsame ▸ hkept

/-- Records in ascending order are determined by which they are. -/
theorem Ascending.eq_of_mem_iff {α : Type} {name : α → TextCell} {records others : List α}
    (h : Ascending name records) (hothers : Ascending name others)
    (hmem : ∀ record, record ∈ records ↔ record ∈ others) : records = others :=
  (h.sublist_of_subset hothers fun record => (hmem record).1).antisymm
    (hothers.sublist_of_subset h fun record => (hmem record).2)

theorem Tables.Lists.congr {tables : Tables} {wanted others : ChannelRecord → Prop} {rows : List Row}
    (h : tables.Lists wanted rows) (hiff : ∀ channel, wanted channel ↔ others channel) :
    tables.Lists others rows := by
  have hsame : wanted = others := funext fun channel => propext (hiff channel)
  exact hsame ▸ h

/-- If more channels are wanted, the rows are kept in their order. -/
theorem Tables.Lists.sublist {tables : Tables} {wanted others : ChannelRecord → Prop}
    {rows found : List Row} (h : tables.Lists wanted rows) (hfound : tables.Lists others found)
    (hmore : ∀ channel, wanted channel → others channel) : rows.Sublist found := by
  obtain ⟨channels, own, hmem, hascending, hown, hrows⟩ := h
  obtain ⟨channels', own', hmem', hascending', hown', hfound⟩ := hfound
  have hchannels : channels.Sublist channels' :=
    hascending.sublist_of_subset hascending' fun channel hchannel =>
      (hmem' channel).2 (((hmem channel).1 hchannel).imp_right (hmore channel))
  have hsame : ∀ channel ∈ channels, own channel = own' channel := fun channel hchannel =>
    (hown channel hchannel).1.eq_of_mem_iff (hown' channel (hchannels.mem hchannel)).1
      fun property => by
        rw [(hown channel hchannel).2, (hown' channel (hchannels.mem hchannel)).2]
  have hlines : (rows.map Row.cells).Sublist (found.map Row.cells) := by
    rw [hrows, hfound, List.flatMap_congr fun channel hchannel => by rw [hsame channel hchannel]]
    exact hchannels.flatMap _
  obtain ⟨kept, hkept, hcells⟩ := List.sublist_map_iff.1 hlines
  rw [List.map_injective_iff.2 Row.cells_injective hcells]
  exact hkept

/-- There is one listing of the wanted channels. -/
theorem Tables.Lists.eq_of_iff {tables : Tables} {wanted others : ChannelRecord → Prop}
    {rows found : List Row} (h : tables.Lists wanted rows) (hfound : tables.Lists others found)
    (hiff : ∀ channel, wanted channel ↔ others channel) : rows = found :=
  (h.sublist hfound fun channel => (hiff channel).1).antisymm
    (hfound.sublist h fun channel => (hiff channel).2)

/-! ## Which lines are listed -/

theorem ChannelRecord.mem_linesWith_congr {channel : ChannelRecord}
    {own others : List PropertyRecord} (hmem : ∀ property, property ∈ own ↔ property ∈ others)
    {line : JoinedRow} : line ∈ channel.linesWith own ↔ line ∈ channel.linesWith others := by
  cases own with
  | nil =>
      rw [List.eq_nil_iff_forall_not_mem.2 fun property =>
        mt (hmem property).2 List.not_mem_nil]
  | cons first rest =>
      cases others with
      | nil => exact absurd ((hmem first).1 List.mem_cons_self) List.not_mem_nil
      | cons second last =>
          rw [linesWith, linesWith, List.mem_map, List.mem_map]
          simp only [hmem]
          · exact List.cons_ne_nil second last
          · exact List.cons_ne_nil first rest

/-- The rows of a listing are the lines of the wanted channels, each joined to all its
properties. -/
theorem Tables.Lists.exists_cells_eq_iff {tables : Tables} {wanted : ChannelRecord → Prop}
    {rows : List Row} (h : tables.Lists wanted rows) {line : JoinedRow} :
    (∃ row ∈ rows, Row.cells row = line) ↔
      ∃ channel ∈ tables.channels, wanted channel ∧ line ∈ channel.join tables.properties := by
  obtain ⟨channels, own, hmem, -, hown, hrows⟩ := h
  have hjoin : ∀ channel ∈ channels,
      (line ∈ channel.linesWith (own channel) ↔ line ∈ channel.join tables.properties) := by
    intro channel hchannel
    rw [ChannelRecord.join_eq]
    refine ChannelRecord.mem_linesWith_congr fun property => ?_
    rw [(hown channel hchannel).2, List.mem_filter, decide_eq_true_eq]
  rw [← List.mem_map, hrows, List.mem_flatMap]
  constructor
  · rintro ⟨channel, hchannel, hline⟩
    obtain ⟨hknown, hwanted⟩ := (hmem channel).1 hchannel
    exact ⟨channel, hknown, hwanted, (hjoin channel hchannel).1 hline⟩
  · rintro ⟨channel, hknown, hwanted, hline⟩
    have hchannel := (hmem channel).2 ⟨hknown, hwanted⟩
    exact ⟨channel, hchannel, (hjoin channel hchannel).2 hline⟩

/-- A wanted channel has rows, also where it has no properties. -/
theorem Tables.Lists.ne_nil {tables : Tables} {wanted : ChannelRecord → Prop} {rows : List Row}
    (h : tables.Lists wanted rows) {channel : ChannelRecord} (hchannel : channel ∈ tables.channels)
    (hwanted : wanted channel) : rows ≠ [] := by
  obtain ⟨line, hline⟩ := List.exists_mem_of_ne_nil _ (channel.join_ne_nil tables.properties)
  obtain ⟨row, hrow, -⟩ := h.exists_cells_eq_iff.2 ⟨channel, hchannel, hwanted, hline⟩
  exact List.ne_nil_of_mem hrow

end Store
end ChannelCatalog
