import ChannelCatalog.Proofs.Glob.Literal
import ChannelCatalog.Proofs.Like.WholeTexts
import ChannelCatalog.Proofs.Store.Rearranging

/-!
# Searches for single texts

What is stored is found by its own spelling: a channel by its name, a property by its key and value, a
tag by its name, where texts that are taken for globs have their backslashes and wildcards escaped.  For
a tag with wildcards in its name, the search with the escaped name is a search by pattern, and still it
finds the channels that the exact name would find.

Patterns are compared as a store reads texts.  Beyond ASCII case, it sees no difference between two
texts that agree up to their first null characters, nor between the last two characters of the basic
plane and the replacement character; and it compares no pattern that is too long.  A tag without
wildcards is not compared by a pattern, and is found whatever its name.
-/

namespace ChannelCatalog

open Text (asciiLower)

/-! ## Single texts as criteria -/

namespace Criteria

/-- A tag with wildcards is searched for by pattern, also when they are escaped. -/
theorem ofTags_literal {text : String} (hpattern : Glob.isPattern text = true) :
    ofTags [Glob.literal text] = { tagPatterns := [Glob.literal text] } := by
  simp [ofTags, addTag, Glob.isPattern_literal, hpattern]

/-- A tag without wildcards is searched for by its name, up to ASCII case. -/
theorem ofTags_of_not_isPattern {tag : String} (hplain : Glob.isPattern tag = false) :
    ofTags [tag] = { exactTags := [asciiLower tag] } := by
  simp [ofTags, addTag, hplain]

/-- One key that is not reserved is searched for as a property. -/
theorem ofRequest_ofPairs {key : String} (value : String) (hname : asciiLower key ≠ nameKey)
    (htag : asciiLower key ≠ tagKey) :
    ofRequest (.ofPairs [(key, value)]) = { properties := [⟨asciiLower key, [value]⟩] } := by
  simp [ofRequest, Request.ofPairs, Request.add, Request.extend, Request.empty, addEntry, hname, htag,
    addProperty, Entry.extend]

end Criteria

namespace Store

open Like (asRead IsReadWhole)

theorem Folding.lower_literal (folding : Folding) (text : String) :
    folding.lower (Glob.literal text) = Glob.literal (folding.lower text) := by
  cases folding with
  | ascii => exact Glob.asciiLower_literal text
  | unicode => exact Glob.lowercase_literal text

/-- A text is like the pattern for another one if they are read alike up to ASCII case. -/
theorem TextCell.likes_literal_iff {value text : String} :
    (TextCell.text value).Likes (Glob.toLike (Glob.literal text)) ↔
      asciiLower (asRead value) = asciiLower (asRead text) := by
  rw [likes_text_iff, Glob.holdsFor_toLike_literal_iff, ← String.toList_inj, Text.toList_asciiLower,
    Text.toList_asciiLower, Like.toList_asRead, Like.toList_asRead, eq_comm]

theorem TextCell.likes_literal_self (value : String) :
    (TextCell.text value).Likes (Glob.toLike (Glob.literal value)) :=
  likes_literal_iff.2 rfl

namespace PropertyRecord

/-- A property is a tag whose name the store reads, once folded, as it reads the given one. -/
def IsTagAsRead (folding : Folding) (property : PropertyRecord) (text : String) : Prop :=
  property.value = .null ∧ ∃ name, property.name = .text name ∧
    asRead (folding.lower name) = asRead (folding.lower text)

variable {folding : Folding} {property : PropertyRecord} {text : String}

/-- The query for the pattern of a tag asks for the tag, as far as it is read. -/
theorem isTagLike_literal_iff (htextual : property.name.IsTextual) :
    property.IsTagLike folding (asciiLower (Glob.toLike (Glob.literal text))) ↔
      property.IsTagAsRead folding text := by
  rw [IsTagLike, folding.lower_asciiLower, folding.lower_toLike, folding.lower_literal]
  refine and_congr_right fun _ => ?_
  obtain ⟨_ | name, hname⟩ := htextual.exists_eq_ofOption
  · rw [hname]
    refine iff_of_false (fun hlikes => hlikes.ne_null folding.lower_null) ?_
    rintro ⟨name, hname, -⟩
    cases hname
  · -- Nothing is left of ASCII case in a folded text.
    have hlikes : (TextCell.lower folding (.text name)).Likes
        (Glob.toLike (Glob.literal (folding.lower text))) ↔
          asRead (folding.lower name) = asRead (folding.lower text) := by
      rw [TextCell.lower, TextCell.likes_literal_iff, folding.asRead_lower, folding.asRead_lower,
        folding.asciiLower_lower, folding.asciiLower_lower]
    rw [hname, TextCell.ofOption, hlikes]
    constructor
    · intro hsame
      exact ⟨name, rfl, hsame⟩
    · rintro ⟨_, ⟨⟩, hsame⟩
      exact hsame

/-- Where names are read whole, a tag is read as the given one if it is that one. -/
theorem isTagAsRead_iff_isTag (htextual : property.name.IsTextual) (hwhole : IsReadWhole text)
    (hnames : property.value = .null → ∀ name, property.name = .text name → IsReadWhole name) :
    property.IsTagAsRead folding text ↔ property.IsTag folding text := by
  rw [IsTagAsRead, IsTag, and_comm (a := property.IsNamed folding text)]
  refine and_congr_right fun hnull => ?_
  rw [IsNamed, folding.asRead_lower, Like.asRead_eq_self hwhole]
  obtain ⟨_ | name, hname⟩ := htextual.exists_eq_ofOption
  · rw [hname]
    refine iff_of_false ?_ fun hnamed => TextCell.noConfusion (folding.lower_null.symm.trans hnamed)
    rintro ⟨name, hname, -⟩
    cases hname
  · have hread : asRead (folding.lower name) = folding.lower name := by
      rw [folding.asRead_lower, Like.asRead_eq_self (hnames hnull name hname)]
    rw [hname, TextCell.ofOption, TextCell.lower, TextCell.text.injEq]
    constructor
    · rintro ⟨_, ⟨⟩, hsame⟩
      exact hread.symm.trans hsame
    · intro hsame
      exact ⟨name, rfl, hread.trans hsame⟩

end PropertyRecord

/-- Nothing is hidden in the names of tags. -/
def Tables.TagsReadWhole (tables : Tables) : Prop :=
  ∀ property ∈ tables.properties, property.value = .null →
    ∀ name, property.name = .text name → IsReadWhole name

/-! ## What single criteria ask for -/

namespace Tables

variable {tables : Tables} {folding : Folding} {channel : ChannelRecord}

theorem wants_name_iff {glob : String} :
    tables.Wants folding { names := [glob] } channel ↔ channel.name.Likes (Glob.toLike glob) := by
  simp [Wants, Criteria.hasIdCriteria, Criteria.requiresPropertyMatch]

theorem wants_property_iff {entry : Entry} :
    tables.Wants folding { properties := [entry] } channel ↔
      tables.HasRow channel.id fun property => property.Matches folding entry := by
  simp [Wants, Criteria.hasIdCriteria, Criteria.requiresPropertyMatch, Resolves, meets_iff,
    Criteria.foldedNames]

theorem resolves_exactTag_iff {tag : String} {id : ChannelId} :
    tables.Resolves folding { exactTags := [tag] } id ↔
      tables.HasRow id fun property => property.IsTag folding tag := by
  simp [Resolves, meets_iff, Criteria.foldedNames]

theorem wants_exactTag_iff {tag : String} :
    tables.Wants folding { exactTags := [tag] } channel ↔
      tables.HasRow channel.id fun property => property.IsTag folding tag := by
  simp [Wants, Criteria.hasIdCriteria, Criteria.requiresPropertyMatch, resolves_exactTag_iff]

theorem resolves_tagPattern_iff {glob : String} {id : ChannelId} :
    tables.Resolves folding { tagPatterns := [glob] } id ↔
      tables.HasRow id fun property =>
        property.IsTagLike folding (asciiLower (Glob.toLike glob)) := by
  simp [Resolves, meets_iff, Criteria.foldedNames]

theorem wants_tagPattern_iff {glob : String} :
    tables.Wants folding { tagPatterns := [glob] } channel ↔
      tables.HasRow channel.id fun property =>
        property.IsTagLike folding (asciiLower (Glob.toLike glob)) := by
  simp [Wants, Criteria.hasIdCriteria, Criteria.requiresPropertyMatch, resolves_tagPattern_iff]

end Tables

namespace WithinLimits

variable {folding : Folding}

theorem name {glob : String} (hshort : Like.isTooLong (Glob.toLike glob) = false) :
    WithinLimits folding { names := [glob] } where
  values := by simp
  tagPatterns := by simp
  expression := by simp [Criteria.propertyMatch?, Criteria.requiresPropertyMatch]
  names := by simpa using hshort
  listing := (by decide : 1 ≤ Limits.maxNames false)

theorem property {key glob : String} (hshort : Like.isTooLong (Glob.toLike glob) = false) :
    WithinLimits folding { properties := [⟨key, [glob]⟩] } where
  values := by simpa using hshort
  tagPatterns := by simp
  expression := by
    rintro _ ⟨⟩
    rfl
  names := by simp
  listing := Nat.zero_le _

theorem exactTag (tag : String) : WithinLimits folding { exactTags := [tag] } where
  values := by simp
  tagPatterns := by simp
  expression := by
    rintro _ ⟨⟩
    rfl
  names := by simp
  listing := Nat.zero_le _

theorem tagPattern {glob : String}
    (hshort : Like.isTooLong (folding.lower (asciiLower (Glob.toLike glob))) = false) :
    WithinLimits folding { tagPatterns := [glob] } where
  values := by simp
  tagPatterns := by simpa using hshort
  expression := by simp [Criteria.propertyMatch?, Criteria.requiresPropertyMatch]
  names := by simp
  listing := Nat.zero_le _

end WithinLimits

/-! ## Tags by their escaped names -/

namespace State

variable {state : State} {tables : Tables}

/-- A search by the pattern for a text lists the channels of the tags that are read like it. -/
theorem lists_of_search_literal (htables : state.tables = some tables) (hvalid : tables.Valid)
    (htextual : tables.IsTextual) {text : String} {outcome : Outcome}
    (h : state.search { tagPatterns := [Glob.literal text] } = .ok outcome) :
    tables.Lists (fun channel => tables.HasRow channel.id fun property =>
      property.IsTagAsRead state.folding text) outcome.toRows := by
  refine (answers_of_search htables hvalid htextual h).lists_toRows.congr fun channel => ?_
  rw [Tables.wants_tagPattern_iff]
  exact Tables.hasRow_congr fun property hmem =>
    PropertyRecord.isTagLike_literal_iff (htextual.properties property hmem).1

/-- Where the names of tags are read whole, the search for the exact name has the same outcome. -/
theorem search_exactTag_of_literal (htables : state.tables = some tables) (hvalid : tables.Valid)
    (htextual : tables.IsTextual) {text : String} (hwhole : IsReadWhole text)
    (htags : tables.TagsReadWhole) {outcome : Outcome}
    (h : state.search { tagPatterns := [Glob.literal text] } = .ok outcome) :
    state.search { exactTags := [text] } = .ok outcome := by
  obtain ⟨result, hresult⟩ := exists_search htables hvalid htextual (WithinLimits.exactTag text)
  have hrow : ∀ id, (tables.HasRow id fun property =>
        property.IsTagLike state.folding (asciiLower (Glob.toLike (Glob.literal text)))) ↔
      tables.HasRow id fun property => property.IsTag state.folding text := fun id =>
    Tables.hasRow_congr fun property hmem =>
      (PropertyRecord.isTagLike_literal_iff (htextual.properties property hmem).1).trans
        (PropertyRecord.isTagAsRead_iff_isTag (htextual.properties property hmem).1 hwhole
          (htags property hmem))
  have hsame : outcome = result := by
    refine (answers_of_search htables hvalid htextual h).eq_of_iff
      (answers_of_search htables hvalid htextual hresult) rfl (fun id => ?_) fun channel => ?_
    · rw [Tables.resolves_tagPattern_iff, Tables.resolves_exactTag_iff, hrow]
    · rw [Tables.wants_tagPattern_iff, Tables.wants_exactTag_iff, hrow]
  rw [hsame]
  exact hresult

/-- **An escaped tag finds what the tag finds.**  On every store that a session makes of an empty
catalog, and whose cells hold texts or nothing, a text with wildcards is searched for by the pattern for
its glob.  The search succeeds unless that pattern is too long, and lists the channels that have a tag
whose name is read like the text, with all their properties.  If the text and the names of tags are read
whole, these are the channels with a tag of that name, and the search for the exact name has the same
outcome. -/
theorem search_literal_tag {start : State} (hstart : start = .catalog ∨ start = .plain)
    (steps : List Step) {state : State} (hstate : steps.foldl State.after start = state)
    (htextual : ∀ tables, state.tables = some tables → tables.IsTextual) {text : String}
    (hpattern : Glob.isPattern text = true) :
    ∃ tables, state.tables = some tables ∧
      Criteria.ofTags [Glob.literal text] = { tagPatterns := [Glob.literal text] } ∧
      (Like.isTooLong (state.folding.lower (Glob.toLike (Glob.literal text))) = false →
        ∃ outcome, state.search (.ofTags [Glob.literal text]) = .ok outcome) ∧
      ∀ outcome, state.search (.ofTags [Glob.literal text]) = .ok outcome →
        tables.Lists (fun channel => tables.HasRow channel.id fun property =>
          property.IsTagAsRead state.folding text) outcome.toRows ∧
        (IsReadWhole text → tables.TagsReadWhole →
          tables.Lists (fun channel => tables.HasRow channel.id fun property =>
            property.IsTag state.folding text) outcome.toRows ∧
          state.search { exactTags := [text] } = .ok outcome) := by
  obtain ⟨⟨tables, htables, hvalid⟩, -⟩ := keeps_valid hstart steps
  rw [hstate] at htables
  have htextual := htextual tables htables
  have hcriteria := Criteria.ofTags_literal hpattern
  refine ⟨tables, htables, hcriteria, fun hshort => ?_, fun outcome h => ?_⟩
  · rw [hcriteria]
    refine exists_search htables hvalid htextual (WithinLimits.tagPattern ?_)
    rwa [state.folding.lower_asciiLower]
  · rw [hcriteria] at h
    refine ⟨lists_of_search_literal htables hvalid htextual h, fun hwhole htags => ?_⟩
    have hexact := search_exactTag_of_literal htables hvalid htextual hwhole htags h
    exact ⟨(answers_of_search htables hvalid htextual hexact).lists_toRows.congr fun _ =>
      Tables.wants_exactTag_iff, hexact⟩

/-- A session that makes a channel with a tag whose name has a wildcard. -/
def questioning : List Step :=
  [.insertChannel none (.text "c1") (.text "o"),
    .insertProperty (some ⟨1⟩) (.text "Really?") .null (.text "o")]

/-- The tables that the session leaves. -/
def questioned : Tables :=
  ⟨.reference, [⟨⟨1⟩, .text "c1", .text "o"⟩], [⟨some ⟨1⟩, .text "Really?", .null, .text "o"⟩], 1⟩

theorem search_literal_tag_questioned :
    Glob.isPattern "REALLY?" = true ∧ ∃ outcome, outcome.toRows ≠ [] ∧
      (questioning.foldl State.after .catalog).search (.ofTags [Glob.literal "REALLY?"]) =
        .ok outcome ∧
      (questioning.foldl State.after .catalog).search { exactTags := ["REALLY?"] } =
        .ok outcome := by
  have hstate : questioning.foldl State.after .catalog = ⟨some questioned, .unicode, none⟩ := by
    decide
  have hpattern : Glob.isPattern "REALLY?" = true := by decide
  have htextual : questioned.IsTextual := ⟨by decide, by decide⟩
  obtain ⟨tables, htables, -, hsucceeds, hlists⟩ := search_literal_tag (Or.inl rfl) questioning hstate
    (fun _ htables => Option.some.inj htables ▸ htextual) hpattern
  cases htables
  have htags : questioned.TagsReadWhole := by
    intro property hmem _ name hname
    rw [List.mem_singleton.1 hmem] at hname
    cases hname
    decide
  obtain ⟨outcome, houtcome⟩ := hsucceeds (by decide)
  obtain ⟨hrows, hexact⟩ := (hlists outcome houtcome).2 (by decide) htags
  rw [hstate]
  exact ⟨hpattern, outcome, hrows.ne_nil (List.mem_singleton_self _) (by decide), houtcome, hexact⟩

/-- A session that makes two channels whose names differ behind a null character, the first with a tag
whose name goes on behind one. -/
def concealing : List Step :=
  [.insertChannel none (.text "a\x00x") (.text "o"), .insertChannel none (.text "a\x00y") (.text "o"),
    .insertProperty (some ⟨1⟩) (.text "*\x00x") .null (.text "o")]

/-- The tables that the session leaves. -/
def concealed : Tables :=
  ⟨.reference, [⟨⟨1⟩, .text "a\x00x", .text "o"⟩, ⟨⟨2⟩, .text "a\x00y", .text "o"⟩],
    [⟨some ⟨1⟩, .text "*\x00x", .null, .text "o"⟩], 2⟩

theorem foldl_after_concealing :
    concealing.foldl State.after .catalog = ⟨some concealed, .unicode, none⟩ := by
  decide

theorem valid_concealed : concealed.Valid :=
  valid_of_foldl_after (Or.inl rfl) concealing foldl_after_concealing rfl

theorem isTextual_concealed : concealed.IsTextual :=
  ⟨by decide, by decide⟩

/-- What is hidden behind a null character does not tell tags apart, so a tag is found that is not the
one asked for.  A tag that is too long is not searched for at all. -/
theorem search_literal_tag_concealed :
    ((concealing.foldl State.after .catalog).tables = some concealed ∧
      (∀ channel ∈ concealed.channels,
        ¬ concealed.HasRow channel.id fun property => property.IsTag .unicode "*\x00y") ∧
      ∃ outcome, outcome.toRows ≠ [] ∧
        (concealing.foldl State.after .catalog).search (.ofTags [Glob.literal "*\x00y"]) =
          .ok outcome) ∧
    (crating.foldl State.after .catalog).search (.ofTags [Glob.literal Glob.stars]) =
      .error ⟨.tagMatch, .patternTooLong⟩ := by
  refine ⟨⟨by decide, by decide, ?_⟩, ?_⟩
  · rw [foldl_after_concealing, Criteria.ofTags_literal (by decide)]
    obtain ⟨outcome, houtcome⟩ : ∃ outcome, State.search ⟨some concealed, .unicode, none⟩
        { tagPatterns := [Glob.literal "*\x00y"] } = .ok outcome :=
      exists_search rfl valid_concealed isTextual_concealed (WithinLimits.tagPattern (by decide))
    refine ⟨outcome, ?_, houtcome⟩
    refine (lists_of_search_literal rfl valid_concealed isTextual_concealed houtcome).ne_nil
      List.mem_cons_self ⟨_, List.mem_singleton_self _, rfl, rfl, "*\x00x", rfl, ?_⟩
    decide
  · rw [Criteria.ofTags_literal Glob.isPattern_stars]
    exact search_of_isTooLong_first [] Glob.isTooLong_lowercase_literal_stars

end State

/-! ## Everything by its own spelling -/

/-- All rows of a channel are in an outcome. -/
def Tables.ShowsAll (tables : Tables) (outcome : Outcome) (channel : ChannelRecord) : Prop :=
  ∀ line ∈ channel.join tables.properties, ∃ row ∈ outcome.toRows, Row.cells row = line

namespace State

variable {state : State} {tables : Tables}

theorem showsAll_of_search (htables : state.tables = some tables) (hvalid : tables.Valid)
    (htextual : tables.IsTextual) {criteria : Criteria} {outcome : Outcome}
    (h : state.search criteria = .ok outcome) {channel : ChannelRecord}
    (hchannel : channel ∈ tables.channels)
    (hwanted : tables.Wants state.folding criteria channel) : tables.ShowsAll outcome channel :=
  fun _ hline => (answers_of_search htables hvalid htextual h).lists_toRows.exists_cells_eq_iff.2
    ⟨channel, hchannel, hwanted, hline⟩

/-- A search by the pattern for a name shows no channels but those whose names are read like it. -/
theorem channelName_of_search_literal (htables : state.tables = some tables) (hvalid : tables.Valid)
    (htextual : tables.IsTextual) {name : String} {outcome : Outcome}
    (h : state.search { names := [Glob.literal name] } = .ok outcome) {row : Row}
    (hrow : row ∈ outcome.toRows) :
    asciiLower (asRead row.channelName) = asciiLower (asRead name) := by
  have hlists := (answers_of_search htables hvalid htextual h).lists_toRows
  obtain ⟨channel, -, hwanted, hline⟩ := hlists.exists_cells_eq_iff.1 ⟨row, hrow, rfl⟩
  have hname : channel.name = .text row.channelName :=
    (ChannelRecord.channelName_of_mem_join hline).symm
  rw [Tables.wants_name_iff, hname] at hwanted
  exact TextCell.likes_literal_iff.1 hwanted

/-- A property is named by its own name, whatever the ASCII case. -/
theorem isNamed_asciiLower (folding : Folding) {property : PropertyRecord} {name : String}
    (hname : property.name = .text name) : property.IsNamed folding (asciiLower name) := by
  rw [PropertyRecord.IsNamed, hname, TextCell.lower, folding.lower_asciiLower]

/-- A property is matched by its own key and value. -/
theorem matches_literal (folding : Folding) {property : PropertyRecord} {name value : String}
    (hname : property.name = .text name) (hvalue : property.value = .text value) :
    property.Matches folding ⟨asciiLower name, [Glob.literal value]⟩ := by
  refine ⟨isNamed_asciiLower folding hname, ?_⟩
  rw [if_neg (List.cons_ne_nil _ _), hvalue]
  exact ⟨_, List.mem_singleton_self _, TextCell.likes_literal_self value⟩

/-- **Everything stored is found by its own spelling.**  On every store that a session makes of an empty
catalog, and whose cells hold texts or nothing, each channel is found with all its rows: by the glob for
its name, which finds only channels whose names are read like it up to ASCII case; by each property
whose key is not reserved, with the glob for its value; and by each tag whose name has no wildcards.
The search by a glob succeeds unless the pattern for the glob is too long, and the search by a tag always
does. -/
theorem search_spelled {start : State} (hstart : start = .catalog ∨ start = .plain)
    (steps : List Step) {state : State} (hstate : steps.foldl State.after start = state)
    (htextual : ∀ tables, state.tables = some tables → tables.IsTextual) :
    ∃ tables, state.tables = some tables ∧ ∀ channel ∈ tables.channels,
      (∀ name, channel.name = .text name →
        (Like.isTooLong (Glob.toLike (Glob.literal name)) = false →
          ∃ outcome, state.search (.ofNames [Glob.literal name]) = .ok outcome) ∧
        ∀ outcome, state.search (.ofNames [Glob.literal name]) = .ok outcome →
          tables.ShowsAll outcome channel ∧ ∀ row ∈ outcome.toRows,
            asciiLower (asRead row.channelName) = asciiLower (asRead name) ∧
            (IsReadWhole name → IsReadWhole row.channelName →
              asciiLower row.channelName = asciiLower name)) ∧
      ∀ property ∈ tables.properties, property.channel = some channel.id →
        ∀ name, property.name = .text name →
          (∀ value, property.value = .text value →
            asciiLower name ≠ nameKey → asciiLower name ≠ tagKey →
            (Like.isTooLong (Glob.toLike (Glob.literal value)) = false → ∃ outcome,
              state.search (.ofRequest (.ofPairs [(name, Glob.literal value)])) = .ok outcome) ∧
            ∀ outcome,
              state.search (.ofRequest (.ofPairs [(name, Glob.literal value)])) = .ok outcome →
              tables.ShowsAll outcome channel ∧
                ∃ row ∈ outcome.toRows, Row.cells row = channel.line property) ∧
          (property.value = .null → Glob.isPattern name = false →
            ∃ outcome, state.search (.ofTags [name]) = .ok outcome ∧
              tables.ShowsAll outcome channel ∧
                ∃ row ∈ outcome.toRows, Row.cells row = channel.line property) := by
  obtain ⟨⟨tables, htables, hvalid⟩, -⟩ := keeps_valid hstart steps
  rw [hstate] at htables
  have htextual := htextual tables htables
  refine ⟨tables, htables, fun channel hchannel => ⟨fun name hname => ⟨fun hshort => ?_,
    fun outcome h => ⟨?_, fun row hrow => ?_⟩⟩, fun property hmem hbelongs name hname =>
    ⟨fun value hvalue hnameKey htagKey => ?_, fun hnull hplain => ?_⟩⟩⟩
  -- The channel by its name.
  · exact exists_search htables hvalid htextual (WithinLimits.name hshort)
  · refine showsAll_of_search htables hvalid htextual h hchannel (Tables.wants_name_iff.2 ?_)
    rw [hname]
    exact TextCell.likes_literal_self name
  · have hread := channelName_of_search_literal htables hvalid htextual h hrow
    refine ⟨hread, fun hwhole hrowWhole => ?_⟩
    rwa [Like.asRead_eq_self hwhole, Like.asRead_eq_self hrowWhole] at hread
  -- The channel by a property.
  · rw [Criteria.ofRequest_ofPairs _ hnameKey htagKey]
    refine ⟨fun hshort => exists_search htables hvalid htextual (WithinLimits.property hshort),
      fun outcome h => ?_⟩
    have hall := showsAll_of_search htables hvalid htextual h hchannel
      (Tables.wants_property_iff.2 ⟨property, hmem, hbelongs, matches_literal _ hname hvalue⟩)
    exact ⟨hall, hall _ (ChannelRecord.line_mem_join hmem hbelongs)⟩
  -- The channel by a tag.
  · rw [Criteria.ofTags_of_not_isPattern hplain]
    obtain ⟨outcome, h⟩ :=
      exists_search htables hvalid htextual (WithinLimits.exactTag (asciiLower name))
    have hall := showsAll_of_search htables hvalid htextual h hchannel
      (Tables.wants_exactTag_iff.2
        ⟨property, hmem, hbelongs, isNamed_asciiLower _ hname, hnull⟩)
    exact ⟨outcome, h, hall, hall _ (ChannelRecord.line_mem_join hmem hbelongs)⟩

/-- A session that makes a channel with a property and a tag, whose texts hold special characters and
letters beyond ASCII. -/
def labelling : List Step :=
  [.insertChannel none (.text "What?") (.text "o"),
    .insertProperty (some ⟨1⟩) (.text "Größe") (.text "100%\\") (.text "o"),
    .insertProperty (some ⟨1⟩) (.text "ÄLTER") .null (.text "o")]

/-- The channel that the session makes. -/
def label : ChannelRecord :=
  ⟨⟨1⟩, .text "What?", .text "o"⟩

/-- The tables that the session leaves. -/
def labelled : Tables :=
  ⟨.reference, [label], [⟨some ⟨1⟩, .text "Größe", .text "100%\\", .text "o"⟩,
    ⟨some ⟨1⟩, .text "ÄLTER", .null, .text "o"⟩], 1⟩

theorem search_spelled_labelled :
    (∃ outcome, (labelling.foldl State.after .plain).search (.ofNames [Glob.literal "What?"]) =
        .ok outcome ∧ labelled.ShowsAll outcome label) ∧
      (∃ outcome, (labelling.foldl State.after .plain).search
          (.ofRequest (.ofPairs [("Größe", Glob.literal "100%\\")])) = .ok outcome ∧
        labelled.ShowsAll outcome label) ∧
      ∃ outcome, (labelling.foldl State.after .plain).search (.ofTags ["ÄLTER"]) = .ok outcome ∧
        labelled.ShowsAll outcome label := by
  have hstate : labelling.foldl State.after .plain = ⟨some labelled, .ascii, none⟩ := by decide
  have htextual : labelled.IsTextual := ⟨by decide, by decide⟩
  obtain ⟨tables, htables, hfound⟩ := search_spelled (Or.inr rfl) labelling hstate
    fun _ htables => Option.some.inj htables ▸ htextual
  cases htables
  obtain ⟨hnamed, hlabelled⟩ := hfound label (List.mem_singleton_self _)
  obtain ⟨hsucceeds, hshows⟩ := hnamed "What?" rfl
  obtain ⟨named, houtcome⟩ := hsucceeds (by decide)
  obtain ⟨hbySize, -⟩ := hlabelled _ List.mem_cons_self rfl "Größe" rfl
  obtain ⟨hsizeSucceeds, hsizeShows⟩ := hbySize "100%\\" rfl (by decide) (by decide)
  obtain ⟨sized, hsized⟩ := hsizeSucceeds (by decide)
  obtain ⟨-, hbyTag⟩ := hlabelled _ (List.mem_cons_of_mem _ List.mem_cons_self) rfl "ÄLTER" rfl
  obtain ⟨tagged, htagged, hall, -⟩ := hbyTag rfl (by decide)
  rw [hstate]
  exact ⟨⟨named, houtcome, (hshows named houtcome).1⟩,
    ⟨sized, hsized, (hsizeShows sized hsized).1⟩, tagged, htagged, hall⟩

/-- What is hidden behind a null character does not tell channels apart, so a channel is found by the
name of another one.  A channel whose name is too long is not found by it. -/
theorem search_spelled_concealed :
    ((concealing.foldl State.after .catalog).tables = some concealed ∧
      ∃ outcome, (concealing.foldl State.after .catalog).search
          (.ofNames [Glob.literal "a\x00x"]) = .ok outcome ∧
        ∃ row ∈ outcome.toRows, asciiLower row.channelName ≠ asciiLower "a\x00x") ∧
    (State.after .catalog (.insertChannel none (.text Glob.stars) (.text "o"))).search
        (.ofNames [Glob.literal Glob.stars]) = .error ⟨.channelQuery, .patternTooLong⟩ := by
  constructor
  · rw [foldl_after_concealing]
    obtain ⟨outcome, houtcome⟩ : ∃ outcome, State.search ⟨some concealed, .unicode, none⟩
        { names := [Glob.literal "a\x00x"] } = .ok outcome :=
      exists_search rfl valid_concealed isTextual_concealed (WithinLimits.name (by decide))
    refine ⟨rfl, outcome, houtcome, ?_⟩
    have hother : (⟨⟨2⟩, .text "a\x00y", .text "o"⟩ : ChannelRecord) ∈ concealed.channels := by decide
    have hall := showsAll_of_search rfl valid_concealed isTextual_concealed houtcome hother
      (Tables.wants_name_iff.2 (TextCell.likes_literal_iff.2 (by decide)))
    obtain ⟨line, hline⟩ := List.exists_mem_of_ne_nil _
      (ChannelRecord.join_ne_nil ⟨⟨2⟩, .text "a\x00y", .text "o"⟩ concealed.properties)
    obtain ⟨row, hrow, rfl⟩ := hall line hline
    have hname : row.channelName = "a\x00y" :=
      TextCell.text.inj (ChannelRecord.channelName_of_mem_join hline)
    refine ⟨row, hrow, ?_⟩
    rw [hname]
    decide
  · exact search_of_isTooLong rfl rfl Glob.isTooLong_literal_stars

end State
end Store
end ChannelCatalog
