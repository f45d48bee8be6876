import ChannelCatalog.Proofs.Channel.Grouping
import ChannelCatalog.Proofs.Criteria.Buckets
import ChannelCatalog.Proofs.Criteria.LetterCase
import ChannelCatalog.Proofs.Store.Searching
import Mathlib.Algebra.GroupWithZero.Nat

/-!
# Looking up what was asked for

The rows of a search are grouped into channels, and in a channel properties and tags are looked up by
their names.  The groups are the listed channels, each with all its properties and tags, and no row is
lost in grouping.  So what a request asked for is there to be looked up: each of its keys as a
property, and each tag without wildcards as a tag.

A store finds names by its own folding, and keys that are spelled alike are asked for under the
spelling of the first.  A lookup folds all of Unicode.  It finds what the store has found since the full
folding undoes the other differences.
-/

namespace ChannelCatalog
namespace Store

open Text (asciiLower lowercase)

/-! ## Groups of a listing -/

/-- The grouped channel is made of the lines of the stored one. -/
def ChannelRecord.IsGrouped (channel : ChannelRecord) (own : List PropertyRecord)
    (grouped : Channel) : Prop :=
  ∃ first more, grouped = .ofRun first more ∧
    (first :: more).map Row.cells = channel.linesWith own

/-- The rows of distinct channels are grouped into these channels, in their order. -/
theorem forall₂_groupRows {channels : List ChannelRecord} {own : ChannelRecord → List PropertyRecord}
    {rows : List Row} (hdistinct : (channels.map ChannelRecord.name).Nodup)
    (hrows : rows.map Row.cells = channels.flatMap fun channel => channel.linesWith (own channel)) :
    List.Forall₂ (fun channel grouped => channel.IsGrouped (own channel) grouped) channels
      (Channel.groupRows rows) := by
  induction channels generalizing rows with
  | nil =>
      rw [List.map_eq_nil_iff.1 hrows]
      exact .nil
  | cons channel rest ih =>
      rw [List.flatMap_cons, List.map_eq_append_iff] at hrows
      obtain ⟨run, others, rfl, hrun, hothers⟩ := hrows
      rw [List.map_cons, List.nodup_cons] at hdistinct
      obtain ⟨hnew, hdistinct⟩ := hdistinct
      have hname : ∀ row ∈ run, channel.name = .text row.channelName := fun row hrow =>
        (ChannelRecord.channelName_of_mem_linesWith (hrun ▸ List.mem_map_of_mem hrow)).symm
      obtain _ | ⟨first, more⟩ := run
      · exact absurd hrun.symm (channel.linesWith_ne_nil _)
      -- The next row belongs to another channel, whose name differs.
      have hends : ∀ row ∈ others.head?, row.channelName ≠ first.channelName := by
        intro row hrow hsame
        have hline : Row.cells row ∈ rest.flatMap fun channel => channel.linesWith (own channel) :=
          hothers ▸ List.mem_map_of_mem (List.mem_of_mem_head? hrow)
        obtain ⟨other, hother, hline⟩ := List.mem_flatMap.1 hline
        refine hnew (List.mem_map.2 ⟨other, hother, ?_⟩)
        rw [hname first List.mem_cons_self, ← hsame]
        exact (ChannelRecord.channelName_of_mem_linesWith hline).symm
      have hsame : ∀ row ∈ more, row.channelName = first.channelName := fun row hrow =>
        TextCell.text.inj ((hname row (List.mem_cons_of_mem _ hrow)).symm.trans
          (hname first List.mem_cons_self))
      rw [Channel.groupRows_run_append hsame hends]
      exact .cons ⟨first, more, rfl, hrun⟩ (ih hdistinct hothers)

/-- A channel as it is stored: its properties are those with a value, and its tags those without. -/
structure Tables.Describes (tables : Tables) (stored : ChannelRecord) (channel : Channel) : Prop where
  name : stored.name = .text channel.name
  owner : stored.owner = .text channel.owner
  properties : ∀ property, property ∈ channel.properties ↔ ∃ record ∈ tables.properties,
    record.channel = some stored.id ∧ record.name = .text property.name ∧
      record.value = .text property.value ∧ record.owner = .ofOption property.owner
  tags : ∀ tag, tag ∈ channel.tags ↔ ∃ record ∈ tables.properties,
    record.channel = some stored.id ∧ record.name = .text tag.name ∧ record.value = .null ∧
      record.owner = .ofOption tag.owner

theorem Row.property?_eq_some_iff_cells {row : Row} {property : Property} :
    row.property? = some property ↔ (Row.cells row).propertyName = .text property.name ∧
      (Row.cells row).propertyValue = .text property.value ∧
      (Row.cells row).propertyOwner = .ofOption property.owner := by
  simp [Row.property?_eq_some_iff, Row.cells]

theorem Row.tag?_eq_some_iff_cells {row : Row} {tag : Tag} :
    row.tag? = some tag ↔ (Row.cells row).propertyName = .text tag.name ∧
      (Row.cells row).propertyValue = .null ∧
      (Row.cells row).propertyOwner = .ofOption tag.owner := by
  simp [Row.tag?_eq_some_iff, Row.cells]

/-- What the rows of a channel carry is what its records hold; a row without a name carries
nothing. -/
theorem exists_row_carries_iff {tables : Tables} {stored : ChannelRecord} {own : List PropertyRecord}
    {run : List Row} (hlines : run.map Row.cells = stored.linesWith own)
    (hown : ∀ record, record ∈ own ↔
      record ∈ tables.properties ∧ record.channel = some stored.id)
    (name : String) (P : JoinedRow → Prop) :
    (∃ row ∈ run, (Row.cells row).propertyName = .text name ∧ P (Row.cells row)) ↔
      ∃ record ∈ tables.properties, record.channel = some stored.id ∧ record.name = .text name ∧
        P (stored.line record) := by
  have hmap : (∃ row ∈ run, (Row.cells row).propertyName = .text name ∧ P (Row.cells row)) ↔
      ∃ line ∈ run.map Row.cells, line.propertyName = .text name ∧ P line := by
    simp only [List.mem_map, exists_exists_and_eq_and]
  have hcarries : ∀ line : JoinedRow, line.propertyName = .text name ∧ P line →
      line.propertyName ≠ .null := by
    rintro line ⟨hname, -⟩ hnull
    exact TextCell.noConfusion (hname.symm.trans hnull)
  rw [hmap, hlines, stored.exists_mem_linesWith_iff hcarries]
  simp only [hown, and_assoc]
  rfl

/-- A grouped channel describes the stored one. -/
theorem ChannelRecord.IsGrouped.describes {tables : Tables} {stored : ChannelRecord}
    {own : List PropertyRecord} {channel : Channel} (h : stored.IsGrouped own channel)
    (hown : ∀ record, record ∈ own ↔
      record ∈ tables.properties ∧ record.channel = some stored.id) :
    tables.Describes stored channel := by
  obtain ⟨first, more, rfl, hlines⟩ := h
  have hfirst : Row.cells first ∈ stored.linesWith own := hlines ▸ List.mem_cons_self
  refine ⟨(ChannelRecord.channelName_of_mem_linesWith hfirst).symm,
    (ChannelRecord.channelOwner_of_mem_linesWith hfirst).symm, fun property => ?_, fun tag => ?_⟩
  · rw [Channel.mem_properties_ofRun]
    simp only [Row.property?_eq_some_iff_cells]
    exact exists_row_carries_iff hlines hown property.name fun line =>
      line.propertyValue = .text property.value ∧ line.propertyOwner = .ofOption property.owner
  · rw [Channel.mem_tags_ofRun]
    simp only [Row.tag?_eq_some_iff_cells]
    exact exists_row_carries_iff hlines hown tag.name fun line =>
      line.propertyValue = .null ∧ line.propertyOwner = .ofOption tag.owner

/-- A listing is grouped into the wanted channels, each with its properties. -/
theorem Tables.Lists.exists_forall₂_groupRows {tables : Tables} {wanted : ChannelRecord → Prop}
    {rows : List Row} (hvalid : tables.Valid) (h : tables.Lists wanted rows) :
    ∃ (channels : List ChannelRecord) (own : ChannelRecord → List PropertyRecord),
      (∀ stored ∈ channels, (stored ∈ tables.channels ∧ wanted stored) ∧
        ∀ property, property ∈ own stored ↔
          property ∈ tables.properties ∧ property.channel = some stored.id) ∧
      List.Forall₂ (fun stored grouped => stored.IsGrouped (own stored) grouped) channels
        (Channel.groupRows rows) ∧
      rows.map Row.cells = channels.flatMap fun channel => channel.linesWith (own channel) := by
  obtain ⟨channels, own, hmem, hascending, hown, hrows⟩ := h
  have hdistinct : (channels.map ChannelRecord.name).Nodup :=
    hascending.nodup.map_on fun first hfirst second hsecond =>
      List.inj_on_of_nodup_map hvalid.distinctNames ((hmem first).1 hfirst).1
        ((hmem second).1 hsecond).1
  exact ⟨channels, own, fun stored hstored => ⟨(hmem stored).1 hstored, (hown stored hstored).2⟩,
    forall₂_groupRows hdistinct hrows, hrows⟩

/-- The channels of a listing are the wanted ones. -/
theorem Tables.Lists.exists_describes {tables : Tables} {wanted : ChannelRecord → Prop}
    {outcome : Outcome} (hvalid : tables.Valid) (h : tables.Lists wanted outcome.toRows)
    {channel : Channel} (hchannel : channel ∈ outcome.channels) :
    ∃ stored ∈ tables.channels, wanted stored ∧ tables.Describes stored channel := by
  obtain ⟨channels, own, hstored, hgroups, -⟩ := h.exists_forall₂_groupRows hvalid
  obtain ⟨stored, hmem, hgrouped⟩ := exists_mem_of_forall₂ hgroups channel hchannel
  obtain ⟨⟨hknown, hwanted⟩, hown⟩ := hstored stored hmem
  exact ⟨stored, hknown, hwanted, hgrouped.describes hown⟩

/-- A grouped channel counts the rows that it is made of. -/
theorem ChannelRecord.IsGrouped.rowCount_eq {stored : ChannelRecord} {own : List PropertyRecord}
    {channel : Channel} (h : stored.IsGrouped own channel)
    (hnamed : ∀ property ∈ own, property.name ≠ .null) :
    channel.rowCount = (stored.linesWith own).length := by
  obtain ⟨first, more, rfl, hlines⟩ := h
  cases own with
  | nil =>
      obtain ⟨hfirst, hmore⟩ := List.cons.inj hlines
      obtain rfl := List.map_eq_nil_iff.1 hmore
      have hnone : TextCell.ofOption first.propertyName = .null :=
        congrArg JoinedRow.propertyName hfirst
      exact Channel.rowCount_ofRun_of_unnamed (TextCell.ofOption_inj.1 hnone)
  | cons property rest =>
      have hrows : ∀ row ∈ first :: more, row.propertyName ≠ none := by
        intro row hrow hnone
        have hline : Row.cells row ∈ stored.linesWith (property :: rest) :=
          hlines ▸ List.mem_map_of_mem hrow
        obtain ⟨record, hrecord, hcells⟩ := List.mem_map.1 hline
        have hname : record.name = TextCell.ofOption row.propertyName :=
          congrArg JoinedRow.propertyName hcells
        rw [hnone] at hname
        exact hnamed record hrecord hname
      rw [Channel.rowCount_ofRun_of_named hrows, ← hlines, List.length_map]

/-- **The channels of a listing account for all its rows.** -/
theorem Tables.Lists.sum_rowCount {tables : Tables} {wanted : ChannelRecord → Prop}
    {rows : List Row} (hvalid : tables.Valid) (h : tables.Lists wanted rows) :
    ((Channel.groupRows rows).map Channel.rowCount).sum = rows.length := by
  obtain ⟨channels, own, hstored, hgroups, hrows⟩ := h.exists_forall₂_groupRows hvalid
  have hnamed : ∀ stored ∈ channels, ∀ property ∈ own stored, property.name ≠ .null :=
    fun stored hmem property hproperty =>
      (hvalid.belongs property (((hstored stored hmem).2 property).1 hproperty).1).1
  have hcounts : List.Forall₂ Eq ((Channel.groupRows rows).map Channel.rowCount)
      (channels.map fun channel => (channel.linesWith (own channel)).length) := by
    rw [List.forall₂_map_left_iff, List.forall₂_map_right_iff]
    exact ((List.forall₂_and_left _ _).2 ⟨hnamed, hgroups⟩).flip.imp fun _ _ hgrouped =>
      hgrouped.2.rowCount_eq hgrouped.1
  rw [List.forall₂_eq_eq_eq] at hcounts
  rw [hcounts, ← List.length_flatMap, ← hrows, List.length_map]

/-! ## Looking up what was asked for -/

namespace PropertyRecord

variable {property : PropertyRecord} {folding : Folding}

/-- A name that the store finds is spelled like the one asked for, in lower case. -/
theorem lowercase_eq_of_isNamed {name text : String} (hname : property.name = .text name)
    (h : property.IsNamed folding text) : lowercase name = lowercase text := by
  rw [IsNamed, hname, TextCell.lower, TextCell.text.injEq] at h
  rw [← folding.lowercase_lower name, h, folding.lowercase_lower]

/-- A property that matches has a value, whatever the globs. -/
theorem Matches.value_ne_null {entry : Entry} (h : property.Matches folding entry) :
    property.value ≠ .null := by
  obtain ⟨-, hvalue⟩ := h
  by_cases hnone : entry.values = []
  · rwa [if_pos hnone] at hvalue
  · rw [if_neg hnone] at hvalue
    obtain ⟨glob, -, hlikes⟩ := hvalue
    exact hlikes.ne_null

end PropertyRecord

namespace Tables.Describes

variable {tables : Tables} {stored : ChannelRecord} {channel : Channel} {folding : Folding}

/-- A matching property of the stored channel can be looked up. -/
theorem isSome_property? (h : tables.Describes stored channel) (htextual : tables.IsTextual)
    {entry : Entry} (hrow : tables.HasRow stored.id fun property => property.Matches folding entry)
    {key : String} (hkey : lowercase entry.key = lowercase key) :
    (channel.property? key).isSome = true := by
  obtain ⟨record, hmem, hbelongs, hmatches⟩ := hrow
  obtain ⟨hnameText, hvalueText, hownerText⟩ := htextual.properties record hmem
  obtain ⟨name, hname⟩ := hnameText.exists_eq_text hmatches.1.name_ne_null
  obtain ⟨value, hvalue⟩ := hvalueText.exists_eq_text hmatches.value_ne_null
  obtain ⟨owner, howner⟩ := hownerText.exists_eq_ofOption
  have hfound : (⟨name, value, owner⟩ : Property) ∈ channel.properties :=
    (h.properties _).2 ⟨record, hmem, hbelongs, hname, hvalue, howner⟩
  exact Channel.isSome_property?_iff.2
    ⟨_, hfound, (PropertyRecord.lowercase_eq_of_isNamed hname hmatches.1).trans hkey⟩

/-- A tag of the stored channel can be looked up. -/
theorem hasTag (h : tables.Describes stored channel) (htextual : tables.IsTextual)
    {kept : String} (hrow : tables.HasRow stored.id fun property => property.IsTag folding kept)
    {tag : String} (htag : lowercase kept = lowercase tag) : channel.hasTag tag = true := by
  obtain ⟨record, hmem, hbelongs, hnamed, hnull⟩ := hrow
  obtain ⟨hnameText, -, hownerText⟩ := htextual.properties record hmem
  obtain ⟨name, hname⟩ := hnameText.exists_eq_text hnamed.name_ne_null
  obtain ⟨owner, howner⟩ := hownerText.exists_eq_ofOption
  have hfound : (⟨name, owner⟩ : Tag) ∈ channel.tags :=
    (h.tags _).2 ⟨record, hmem, hbelongs, hname, hnull, howner⟩
  exact Channel.hasTag_iff.2
    ⟨_, hfound, (PropertyRecord.lowercase_eq_of_isNamed hname hnamed).trans htag⟩

end Tables.Describes

namespace State

/-- **What a request asks for can be looked up.**  On every store that a session makes of an empty
catalog, and whose cells hold texts or nothing, each channel that a search for a request finds has a
property for every key of the request that is not reserved, and every tag of the request that has no
wildcards. -/
theorem lookup_of_search {start : State} (hstart : start = .catalog ∨ start = .plain)
    (steps : List Step) {state : State} (hstate : steps.foldl State.after start = state)
    (htextual : ∀ tables, state.tables = some tables → tables.IsTextual) (request : Request)
    {outcome : Outcome} (h : state.search (.ofRequest request) = .ok outcome) :
    ∀ channel ∈ outcome.channels,
      (∀ entry ∈ request.properties, (channel.property? entry.key).isSome = true) ∧
      ∀ tag ∈ request.tags, Glob.isPattern tag = false → channel.hasTag tag = true := by
  obtain ⟨⟨tables, htables, hvalid⟩, -⟩ := keeps_valid hstart steps
  rw [hstate] at htables
  have htextual := htextual tables htables
  intro channel hchannel
  have hlists := (answers_of_search htables hvalid htextual h).lists_toRows
  obtain ⟨stored, -, hwanted, hdescribes⟩ := hlists.exists_describes hvalid hchannel
  have hmeets := hwanted.resolves.2
  refine ⟨fun entry hentry => ?_, fun tag htag hplain => ?_⟩
  · -- The key is asked for under the spelling that came first.
    obtain ⟨kept, hkept, hkey⟩ := List.mem_map.1
      ((Criteria.mem_foldedKeys_ofRequest request).2 (List.mem_map.2 ⟨entry, hentry, rfl⟩))
    exact hdescribes.isSome_property? htextual (hmeets.properties kept hkept) hkey
  · obtain ⟨kept, hkept, hsame⟩ := List.mem_map.1
      ((Criteria.mem_map_lowercase_exactTags_ofRequest request).2 ⟨tag, htag, hplain, rfl⟩)
    exact hdescribes.hasTag htextual (hmeets.exactTags kept hkept) hsame

/-- What is asked of a channel that the session of the shelves makes. -/
def sizedAndNewRequest : Request :=
  .ofPairs [("SIZE", "1*"), ("~Tag", "NEW"), ("~name", "a*")]

theorem lookup_of_search_shelved :
    ∃ outcome channel,
      (shelving.foldl State.after .catalog).search (.ofRequest sizedAndNewRequest) = .ok outcome ∧
        channel ∈ outcome.channels ∧ (channel.property? "SIZE").isSome = true ∧
        channel.hasTag "NEW" = true := by
  have hvalid : shelved.Valid := valid_of_foldl_after (Or.inl rfl) shelving foldl_after_shelving rfl
  obtain ⟨outcome, houtcome⟩ : ∃ outcome, State.search ⟨some shelved, .unicode, none⟩
      (.ofRequest sizedAndNewRequest) = .ok outcome :=
    exists_search rfl hvalid isTextual_shelved
      ⟨⟨by decide, by decide, by decide⟩, by decide, by decide⟩
  have hfound : outcome.toRows ≠ [] :=
    (answers_of_search rfl hvalid isTextual_shelved houtcome).lists_toRows.ne_nil
      (List.mem_cons_of_mem _ List.mem_cons_self) ⟨fun _ => by decide, fun _ => by decide⟩
  obtain ⟨row, rest, hrows⟩ := List.exists_cons_of_ne_nil hfound
  obtain ⟨channel, others, hgroups, -⟩ := Channel.exists_groupRows_cons row rest
  have hchannel : channel ∈ outcome.channels := by
    rw [Outcome.channels, hrows, hgroups]
    exact List.mem_cons_self
  obtain ⟨hproperties, htags⟩ := lookup_of_search (Or.inl rfl) shelving foldl_after_shelving
    (fun _ htables => Option.some.inj htables ▸ isTextual_shelved) sizedAndNewRequest houtcome
    channel hchannel
  rw [foldl_after_shelving]
  exact ⟨outcome, channel, houtcome, hchannel, hproperties ⟨"SIZE", ["1*"]⟩ (by decide),
    htags "NEW" (by decide) (by decide)⟩

end State
end Store
end ChannelCatalog
