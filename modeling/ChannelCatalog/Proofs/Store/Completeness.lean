import ChannelCatalog.Proofs.Criteria.Buckets
import ChannelCatalog.Proofs.Store.Searching

/-!
# Which requests find what they ask for

A request asks for channels by their properties, tags and names.  On a catalog, which folds all of
Unicode, a search shows exactly the channels that satisfy the request, with one exception.  If a
property key and a tag without wildcards are spelled alike up to letter case, one folded name
stands for two criteria.  The counted query waits for two names and never finds them, so the search
shows nothing, although there may be channels that satisfy the request.
-/

namespace ChannelCatalog

open Text (asciiLower lowercase lowercase_asciiLower)
open Store

namespace Request

/-- An entry with all the values that the request gives for its key, under any spelling of it. -/
def gathered (request : Request) (entry : Entry) : Entry :=
  ⟨entry.key, Entry.valuesAt entry.foldedKey request.properties⟩

/-- A property key and a tag without wildcards are spelled alike up to letter case. -/
def Clashes (request : Request) : Prop :=
  ∃ entry ∈ request.properties, ∃ tag ∈ request.tags,
    Glob.isPattern tag = false ∧ lowercase tag = entry.foldedKey

instance (request : Request) : Decidable request.Clashes :=
  inferInstanceAs (Decidable (∃ entry ∈ request.properties, ∃ tag ∈ request.tags, _ ∧ _))

/-- The names that are counted for a request are told apart unless a key and a tag clash. -/
theorem nodup_foldedNames_iff (request : Request) :
    ((Criteria.ofRequest request).foldedNames .unicode).Nodup ↔ ¬ request.Clashes := by
  have hkeys : ((Criteria.ofRequest request).properties.map Entry.key).map lowercase =
      (Criteria.ofRequest request).properties.map Entry.foldedKey := by
    rw [List.map_map]
    rfl
  have hsplit : (Criteria.ofRequest request).foldedNames .unicode =
      (Criteria.ofRequest request).properties.map Entry.foldedKey ++
        (Criteria.ofRequest request).exactTags.map lowercase := by
    rw [← hkeys, ← List.map_append]
    rfl
  -- Keys are told apart among themselves, and so are tags; only a key and a tag may coincide.
  rw [hsplit, List.nodup_append']
  have hfirst := Criteria.nodup_foldedKeys_ofRequest request
  have hsecond := Criteria.nodup_map_lowercase_exactTags_ofRequest request
  constructor
  · rintro ⟨-, -, hdisjoint⟩ ⟨entry, hentry, tag, htag, hplain, hsame⟩
    refine hdisjoint ((Criteria.mem_foldedKeys_ofRequest request).2
      (List.mem_map.2 ⟨entry, hentry, rfl⟩)) ?_
    exact (Criteria.mem_map_lowercase_exactTags_ofRequest request).2 ⟨tag, htag, hplain, hsame⟩
  · intro hclash
    refine ⟨hfirst, hsecond, fun folded hkey htag => hclash ?_⟩
    obtain ⟨entry, hentry, rfl⟩ :=
      List.mem_map.1 ((Criteria.mem_foldedKeys_ofRequest request).1 hkey)
    obtain ⟨tag, hmem, hplain, hsame⟩ :=
      (Criteria.mem_map_lowercase_exactTags_ofRequest request).1 htag
    exact ⟨entry, hentry, tag, hmem, hplain, hsame⟩

end Request

namespace Store

/-- A channel satisfies a request: it has a row for each property key, where the globs given for
the key under any spelling are taken together; it has each of the tags; and its name is like one of
the globs for names, if there are any. -/
structure Tables.Satisfies (tables : Tables) (request : Request) (channel : ChannelRecord) :
    Prop where
  properties : ∀ entry ∈ request.properties,
    tables.HasRow channel.id fun property => property.Matches .unicode (request.gathered entry)
  exactTags : ∀ tag ∈ request.tags, Glob.isPattern tag = false →
    tables.HasRow channel.id fun property => property.IsTag .unicode tag
  tagPatterns : ∀ glob ∈ request.tags, Glob.isPattern glob = true →
    tables.HasRow channel.id fun property => property.IsTagLike .unicode (Glob.toLike glob)
  names : request.nameGlobs ≠ [] →
    ∃ glob ∈ request.nameGlobs, channel.name.Likes (Glob.toLike glob)

theorem Tables.satisfies_iff {tables : Tables} {request : Request} {channel : ChannelRecord} :
    tables.Satisfies request channel ↔
      (∀ entry ∈ request.properties, tables.HasRow channel.id fun property =>
        property.Matches .unicode (request.gathered entry)) ∧
      (∀ tag ∈ request.tags, Glob.isPattern tag = false →
        tables.HasRow channel.id fun property => property.IsTag .unicode tag) ∧
      (∀ glob ∈ request.tags, Glob.isPattern glob = true →
        tables.HasRow channel.id fun property =>
          property.IsTagLike .unicode (Glob.toLike glob)) ∧
      (request.nameGlobs ≠ [] →
        ∃ glob ∈ request.nameGlobs, channel.name.Likes (Glob.toLike glob)) :=
  ⟨fun h => ⟨h.properties, h.exactTags, h.tagPatterns, h.names⟩,
    fun h => ⟨h.1, h.2.1, h.2.2.1, h.2.2.2⟩⟩

instance (tables : Tables) (request : Request) (channel : ChannelRecord) :
    Decidable (tables.Satisfies request channel) :=
  decidable_of_iff _ Tables.satisfies_iff.symm

theorem PropertyRecord.isNamed_congr {property : PropertyRecord} {name other : String}
    (hsame : lowercase name = lowercase other) :
    property.IsNamed .unicode name ↔ property.IsNamed .unicode other := by
  have hfolded : Folding.unicode.lower name = Folding.unicode.lower other := hsame
  rw [PropertyRecord.IsNamed, PropertyRecord.IsNamed, hfolded]

variable {tables : Tables} {request : Request} {id : ChannelId}

/-- The entry that is kept for a key asks for the same as all entries of the request for it. -/
theorem PropertyRecord.matches_gathered_iff (property : PropertyRecord) {kept entry : Entry}
    (hkept : kept ∈ (Criteria.ofRequest request).properties)
    (hkey : kept.foldedKey = entry.foldedKey) :
    property.Matches .unicode kept ↔ property.Matches .unicode (request.gathered entry) := by
  have hvalues : kept.values = (request.gathered entry).values := by
    rw [Criteria.values_of_mem_properties_ofRequest request hkept, hkey]
    rfl
  have hnamed : property.IsNamed .unicode kept.key ↔
      property.IsNamed .unicode (request.gathered entry).key := isNamed_congr hkey
  rw [PropertyRecord.Matches, PropertyRecord.Matches, hvalues, hnamed]

/-- Property keys are met as in the request. -/
theorem hasRow_properties_iff :
    (∀ entry ∈ (Criteria.ofRequest request).properties,
        tables.HasRow id fun property => property.Matches .unicode entry) ↔
      ∀ entry ∈ request.properties,
        tables.HasRow id fun property => property.Matches .unicode (request.gathered entry) := by
  constructor
  · intro hmerged entry hentry
    obtain ⟨kept, hkept, hkey⟩ := List.mem_map.1
      ((Criteria.mem_foldedKeys_ofRequest request).2 (List.mem_map.2 ⟨entry, hentry, rfl⟩))
    obtain ⟨property, hmem, hchannel, hmatches⟩ := hmerged kept hkept
    exact ⟨property, hmem, hchannel, (property.matches_gathered_iff hkept hkey).1 hmatches⟩
  · intro hasked kept hkept
    obtain ⟨entry, hentry, hkey⟩ := List.mem_map.1
      ((Criteria.mem_foldedKeys_ofRequest request).1 (List.mem_map.2 ⟨kept, hkept, rfl⟩))
    obtain ⟨property, hmem, hchannel, hmatches⟩ := hasked entry hentry
    exact ⟨property, hmem, hchannel, (property.matches_gathered_iff hkept hkey.symm).2 hmatches⟩

/-- Tags without wildcards are met as in the request. -/
theorem hasRow_exactTags_iff :
    (∀ tag ∈ (Criteria.ofRequest request).exactTags,
        tables.HasRow id fun property => property.IsTag .unicode tag) ↔
      ∀ tag ∈ request.tags, Glob.isPattern tag = false →
        tables.HasRow id fun property => property.IsTag .unicode tag := by
  constructor
  · intro hkept tag htag hplain
    obtain ⟨kept, hmem, hsame⟩ := List.mem_map.1
      ((Criteria.mem_map_lowercase_exactTags_ofRequest request).2 ⟨tag, htag, hplain, rfl⟩)
    obtain ⟨property, hrow, hchannel, hnamed, hnull⟩ := hkept kept hmem
    exact ⟨property, hrow, hchannel, (PropertyRecord.isNamed_congr hsame).1 hnamed, hnull⟩
  · intro hasked kept hmem
    obtain ⟨tag, htag, hplain, hsame⟩ :=
      (Criteria.mem_map_lowercase_exactTags_ofRequest request).1
        (List.mem_map.2 ⟨kept, hmem, rfl⟩)
    obtain ⟨property, hrow, hchannel, hnamed, hnull⟩ := hasked tag htag hplain
    exact ⟨property, hrow, hchannel, (PropertyRecord.isNamed_congr hsame).1 hnamed, hnull⟩

/-- Tag globs are met as in the request: lower case in the pattern does not matter to the store. -/
theorem hasRow_tagPatterns_iff :
    (∀ glob ∈ (Criteria.ofRequest request).tagPatterns, tables.HasRow id fun property =>
        property.IsTagLike .unicode (asciiLower (Glob.toLike glob))) ↔
      ∀ glob ∈ request.tags, Glob.isPattern glob = true → tables.HasRow id fun property =>
        property.IsTagLike .unicode (Glob.toLike glob) := by
  have hlower : ∀ (property : PropertyRecord) (pattern : String),
      property.IsTagLike .unicode (asciiLower pattern) ↔ property.IsTagLike .unicode pattern := by
    intro property pattern
    have hfolded : Folding.unicode.lower (asciiLower pattern) = Folding.unicode.lower pattern :=
      lowercase_asciiLower pattern
    rw [PropertyRecord.IsTagLike, PropertyRecord.IsTagLike, hfolded]
  rw [Criteria.tagPatterns_ofRequest]
  simp [hlower]

/-- The channels that the criteria of a request want are those that satisfy it, if no key clashes
with a tag. -/
theorem wants_ofRequest_iff {channel : ChannelRecord} :
    tables.Wants .unicode (.ofRequest request) channel ↔
      tables.Satisfies request channel ∧ ¬ request.Clashes := by
  rw [Tables.Wants, Tables.resolves_iff, Tables.Resolves, request.nodup_foldedNames_iff, Tables.meets_iff,
    hasRow_properties_iff, hasRow_exactTags_iff, hasRow_tagPatterns_iff,
    Criteria.names_ofRequest]
  constructor
  · rintro ⟨⟨hclash, hproperties, hexact, hpatterns⟩, hnames⟩
    exact ⟨⟨hproperties, hexact, hpatterns, hnames⟩, hclash⟩
  · rintro ⟨⟨hproperties, hexact, hpatterns, hnames⟩, hclash⟩
    exact ⟨⟨hclash, hproperties, hexact, hpatterns⟩, hnames⟩

/-! ## What is shown -/

/-- Some row of the outcome carries the name of the channel. -/
def Shows (outcome : Outcome) (channel : ChannelRecord) : Prop :=
  ∃ row ∈ outcome.toRows, channel.name = .text row.channelName

/-- A listing shows exactly the channels that were wanted. -/
theorem Tables.Lists.shows_iff (hvalid : tables.Valid) {wanted : ChannelRecord → Prop}
    {outcome : Outcome} (h : tables.Lists wanted outcome.toRows) {channel : ChannelRecord}
    (hchannel : channel ∈ tables.channels) : Shows outcome channel ↔ wanted channel := by
  constructor
  · rintro ⟨row, hrow, hname⟩
    obtain ⟨other, hknown, hwanted, hline⟩ := h.exists_cells_eq_iff.1 ⟨row, hrow, rfl⟩
    -- The row belongs to a channel of the same name, and that is the channel itself.
    have hsame : other.name = channel.name :=
      (ChannelRecord.channelName_of_mem_join hline).symm.trans hname.symm
    rw [← List.inj_on_of_nodup_map hvalid.distinctNames hknown hchannel hsame]
    exact hwanted
  · intro hwanted
    -- Even a channel without properties has a line.
    obtain ⟨line, hline⟩ := List.exists_mem_of_ne_nil _ (channel.join_ne_nil tables.properties)
    obtain ⟨row, hrow, rfl⟩ := h.exists_cells_eq_iff.2 ⟨channel, hchannel, hwanted, hline⟩
    exact ⟨row, hrow, (ChannelRecord.channelName_of_mem_join hline).symm⟩

/-- A search with the outcome that it should have shows exactly the wanted channels. -/
theorem Tables.Answers.shows_iff (hvalid : tables.Valid) {folding : Folding} {criteria : Criteria}
    {outcome : Outcome} (h : tables.Answers folding criteria outcome) {channel : ChannelRecord}
    (hchannel : channel ∈ tables.channels) :
    Shows outcome channel ↔ tables.Wants folding criteria channel :=
  h.lists_toRows.shows_iff hvalid hchannel

namespace State

/-- **A search shows the channels that satisfy the request.**  On every store that a session makes
of an empty catalog, and whose cells hold texts or nothing, a search within the limits succeeds, and
a search that succeeds shows exactly the channels that satisfy the request, unless a property key
and a tag of it are spelled alike; then it shows none. -/
theorem search_shows (steps : List Step) {state : State}
    (hstate : steps.foldl State.after .catalog = state)
    (htextual : ∀ tables, state.tables = some tables → tables.IsTextual) (request : Request) :
    ∃ tables, state.tables = some tables ∧
      (WithinLimits .unicode (.ofRequest request) →
        ∃ outcome, state.search (.ofRequest request) = .ok outcome) ∧
      ∀ outcome, state.search (.ofRequest request) = .ok outcome →
        ∀ channel ∈ tables.channels,
          Shows outcome channel ↔ tables.Satisfies request channel ∧ ¬ request.Clashes := by
  obtain ⟨⟨tables, htables, hvalid⟩, -⟩ := keeps_valid (Or.inl rfl) steps
  have hfolding : state.folding = .unicode := hstate ▸ folding_foldl_after rfl steps
  rw [hstate] at htables
  have htextual := htextual tables htables
  refine ⟨tables, htables, fun hlimits => ?_, fun outcome h channel hchannel => ?_⟩
  · rw [← hfolding] at hlimits
    exact exists_search htables hvalid htextual hlimits
  · have hanswers := answers_of_search htables hvalid htextual h
    rw [hanswers.shows_iff hvalid hchannel, hfolding, wants_ofRequest_iff]

/-- A session that makes a channel with a red color and with a tag of the same name. -/
def painting : List Step :=
  [.insertChannel none (.text "c1") (.text "o"),
    .insertProperty (some ⟨1⟩) (.text "color") (.text "red") (.text "o"),
    .insertProperty (some ⟨1⟩) (.text "Color") .null (.text "o")]

/-- The channel that the session makes. -/
def canvas : ChannelRecord :=
  ⟨⟨1⟩, .text "c1", .text "o"⟩

/-- The tables that the session leaves. -/
def painted : Tables :=
  ⟨.reference, [canvas], [⟨some ⟨1⟩, .text "color", .text "red", .text "o"⟩,
    ⟨some ⟨1⟩, .text "Color", .null, .text "o"⟩], 1⟩

theorem search_shows_canvas :
    ∃ outcome, (painting.foldl State.after .catalog).search
        (.ofRequest (.ofPairs [("COLOR", "r*"), ("~tag", "colo?")])) = .ok outcome ∧
      Shows outcome canvas := by
  have hstate : painting.foldl State.after .catalog = ⟨some painted, .unicode, none⟩ := by decide
  have htextual : ∀ tables, some painted = some tables → tables.IsTextual := by
    rintro _ ⟨⟩
    exact ⟨by decide, by decide⟩
  obtain ⟨tables, htables, hsucceeds, hshows⟩ := search_shows painting hstate htextual
    (.ofPairs [("COLOR", "r*"), ("~tag", "colo?")])
  cases htables
  obtain ⟨outcome, houtcome⟩ :=
    hsucceeds ⟨⟨by decide, by decide, by decide⟩, by decide, by decide⟩
  rw [hstate]
  exact ⟨outcome, houtcome, (hshows outcome houtcome canvas (by decide)).2
    ⟨by decide, by decide⟩⟩

/-- The channel has a red color and a tag of that name, and it is not found by both together. -/
theorem search_clashing :
    (painting.foldl State.after .catalog).tables = some painted ∧ canvas ∈ painted.channels ∧
      painted.Satisfies (.ofPairs [("color", "red"), ("~tag", "COLOR")]) canvas ∧
      (painting.foldl State.after .catalog).search
        (.ofRequest (.ofPairs [("color", "red"), ("~tag", "COLOR")])) = .ok .empty := by
  decide

end State
end Store
end ChannelCatalog
