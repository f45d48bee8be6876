import ChannelCatalog.Config
import ChannelCatalog.Json.Record
import ChannelCatalog.Proofs.Json.Spelling

/-!
# Records written and read

What a record of the catalog is written as is read as the record.  The same holds of every other text
that spells it: with its fields in another order or in an array, with members that mean nothing, and
with white space between the tokens.
-/

namespace ChannelCatalog

open Json

namespace ChannelId

theorem decodes_ofJson (id : ChannelId) : Decodes ofJson id fun document => document = id.toJson := by
  intro document hspelled
  have hhigh : id.toInt ≤ 0x7FFFFFFFFFFFFFFF := Int.le_of_lt_add_one id.key.toInt_lt
  have hword : signedWord document = .ok id.toInt :=
    decodes_integerAs "i64" id.key.le_toInt hhigh (by decide) (by decide) document hspelled
  rw [ofJson, hword]
  exact congrArg (fun key => Except.ok (ChannelId.mk key)) (Int64.ofInt_toInt id.key)

theorem isGrammatical_toJson (id : ChannelId) : id.toJson.IsGrammatical :=
  Document.isGrammatical_int id.toInt

end ChannelId

theorem spellsOption_optionalText (value : Option String) :
    SpellsOption value (optionalText value) := by
  cases value with
  | none => rfl
  | some content => exact spellsText_text content

@[simp] theorem isGrammatical_optionalText (value : Option String) :
    (optionalText value).IsGrammatical := by
  cases value with
  | none => exact Document.isGrammatical_null
  | some content => exact Document.isGrammatical_text content

namespace Row

/-- The fields of a row.  What is absent may be left out of an object, but not of an array. -/
def spelledFields (row : Row) : List Field :=
  [.required "channel_name" (SpellsText row.channelName),
    .required "channel_owner" (SpellsText row.channelOwner),
    .optional "property_name" row.propertyName, .optional "property_value" row.propertyValue,
    .optional "property_owner" row.propertyOwner]

def Spelled (row : Row) : Document → Prop :=
  SpellsRecord row.spelledFields

theorem decodes_ofJson (row : Row) : Decodes ofJson row row.Spelled := by
  refine decodes_recordOf ?_ (fun members hgiven => ?_) (fun items hlisted => ?_)
  · exact .cons ⟨rfl, (decodes_text _).checked⟩ (.cons ⟨rfl, (decodes_text _).checked⟩
      (.cons ⟨rfl, (decodes_orNull _).checked⟩ (.cons ⟨rfl, (decodes_orNull _).checked⟩
        (.cons ⟨rfl, (decodes_orNull _).checked⟩ .nil))))
  · simp only [spelledFields, List.forall_mem_cons] at hgiven
    obtain ⟨hchannel, hchannelOwner, hname, hvalue, howner, -⟩ := hgiven
    have hname : memberOr "property_name" none (orNull text) members = .ok row.propertyName :=
      memberOr_eq_ok hname (decodes_orNull _) Eq.symm
    have hvalue : memberOr "property_value" none (orNull text) members = .ok row.propertyValue :=
      memberOr_eq_ok hvalue (decodes_orNull _) Eq.symm
    have howner : memberOr "property_owner" none (orNull text) members = .ok row.propertyOwner :=
      memberOr_eq_ok howner (decodes_orNull _) Eq.symm
    rw [ofMembers, member_eq_ok hchannel (decodes_text _),
      member_eq_ok hchannelOwner (decodes_text _), hname, hvalue, howner]
    rfl
  · obtain ⟨_, hchannel, hlisted⟩ := exists_nextItem hlisted id (decodes_text _)
      (recordShape "ChannelRow" 5) 0
    obtain ⟨_, hchannelOwner, hlisted⟩ := exists_nextItem hlisted id (decodes_text _)
      (recordShape "ChannelRow" 5) 1
    obtain ⟨_, hname, hlisted⟩ := exists_nextItem hlisted id (decodes_orNull _)
      (recordShape "ChannelRow" 5) 2
    obtain ⟨_, hvalue, hlisted⟩ := exists_nextItem hlisted id (decodes_orNull _)
      (recordShape "ChannelRow" 5) 3
    obtain ⟨_, howner, hlisted⟩ := exists_nextItem hlisted id (decodes_orNull _)
      (recordShape "ChannelRow" 5) 4
    simp only [ofItems, hchannel, hchannelOwner, hname, hvalue, howner, noMoreItems_eq_ok hlisted,
      bind, Except.bind]
    rfl

theorem spelled_toJson (row : Row) : row.Spelled row.toJson := by
  refine spellsRecord_record ?_
  simp [spelledFields, Field.required, Field.optional, Field.IsGiven, spellsText_text,
    spellsOption_optionalText]

theorem isGrammatical_toJson (row : Row) : row.toJson.IsGrammatical := by
  simp [toJson]

end Row

namespace Property

/-- The fields of a property.  The owner may be left out if there is none. -/
def spelledFields (property : Property) : List Field :=
  [.required "name" (SpellsText property.name), .required "value" (SpellsText property.value),
    .defaulted "owner" (SpellsOption property.owner) (property.owner = none)]

def Spelled (property : Property) : Document → Prop :=
  SpellsRecord property.spelledFields

theorem decodes_ofJson (property : Property) : Decodes ofJson property property.Spelled := by
  refine decodes_recordOf ?_ (fun members hgiven => ?_) (fun items hlisted => ?_)
  · exact .cons ⟨rfl, (decodes_text _).checked⟩ (.cons ⟨rfl, (decodes_text _).checked⟩
      (.cons ⟨rfl, (decodes_orNull _).checked⟩ .nil))
  · simp only [spelledFields, List.forall_mem_cons] at hgiven
    obtain ⟨hname, hvalue, howner, -⟩ := hgiven
    have howner : memberOr "owner" none (orNull text) members = .ok property.owner :=
      memberOr_eq_ok howner (decodes_orNull _) Eq.symm
    rw [ofMembers, member_eq_ok hname (decodes_text _), member_eq_ok hvalue (decodes_text _), howner]
    rfl
  · obtain ⟨_, hname, hlisted⟩ := exists_nextItem hlisted id (decodes_text _)
      (recordShape "Property" 3) 0
    obtain ⟨_, hvalue, hlisted⟩ := exists_nextItem hlisted id (decodes_text _)
      (recordShape "Property" 3) 1
    obtain ⟨_, howner, hlisted⟩ := exists_nextItemOr hlisted (decodes_orNull _) Eq.symm
    simp only [ofItems, hname, hvalue, howner, noMoreItems_eq_ok hlisted, bind, Except.bind]
    rfl

theorem spelled_toJson (property : Property) : property.Spelled property.toJson := by
  refine spellsRecord_record ?_
  cases howner : property.owner <;>
    simp [spelledFields, Field.required, Field.defaulted, Field.IsGiven, howner, ownerMember,
      SpellsOption, spellsText_text]

theorem isGrammatical_toJson (property : Property) : property.toJson.IsGrammatical := by
  cases howner : property.owner <;> simp [toJson, howner, ownerMember]

end Property

namespace Tag

/-- The fields of a tag.  The owner may be left out if there is none. -/
def spelledFields (tag : Tag) : List Field :=
  [.required "name" (SpellsText tag.name),
    .defaulted "owner" (SpellsOption tag.owner) (tag.owner = none)]

def Spelled (tag : Tag) : Document → Prop :=
  SpellsRecord tag.spelledFields

theorem decodes_ofJson (tag : Tag) : Decodes ofJson tag tag.Spelled := by
  refine decodes_recordOf ?_ (fun members hgiven => ?_) (fun items hlisted => ?_)
  · exact .cons ⟨rfl, (decodes_text _).checked⟩ (.cons ⟨rfl, (decodes_orNull _).checked⟩ .nil)
  · simp only [spelledFields, List.forall_mem_cons] at hgiven
    obtain ⟨hname, howner, -⟩ := hgiven
    have howner : memberOr "owner" none (orNull text) members = .ok tag.owner :=
      memberOr_eq_ok howner (decodes_orNull _) Eq.symm
    rw [ofMembers, member_eq_ok hname (decodes_text _), howner]
    rfl
  · obtain ⟨_, hname, hlisted⟩ := exists_nextItem hlisted id (decodes_text _)
      (recordShape "Tag" 2) 0
    obtain ⟨_, howner, hlisted⟩ := exists_nextItemOr hlisted (decodes_orNull _) Eq.symm
    simp only [ofItems, hname, howner, noMoreItems_eq_ok hlisted, bind, Except.bind]
    rfl

theorem spelled_toJson (tag : Tag) : tag.Spelled tag.toJson := by
  refine spellsRecord_record ?_
  cases howner : tag.owner <;>
    simp [spelledFields, Field.required, Field.defaulted, Field.IsGiven, howner, ownerMember,
      SpellsOption, spellsText_text]

theorem isGrammatical_toJson (tag : Tag) : tag.toJson.IsGrammatical := by
  cases howner : tag.owner <;> simp [toJson, howner, ownerMember]

end Tag

namespace Channel

/-- The fields of a channel.  A list may be left out if it is empty. -/
def spelledFields (channel : Channel) : List Field :=
  [.required "name" (SpellsText channel.name), .required "owner" (SpellsText channel.owner),
    .defaulted "properties" (SpellsList Property.Spelled channel.properties)
      (channel.properties = []),
    .defaulted "tags" (SpellsList Tag.Spelled channel.tags) (channel.tags = [])]

def Spelled (channel : Channel) : Document → Prop :=
  SpellsRecord channel.spelledFields

theorem decodes_ofJson (channel : Channel) : Decodes ofJson channel channel.Spelled := by
  have hproperties := decodes_listOf channel.properties Property.decodes_ofJson
  have htags := decodes_listOf channel.tags Tag.decodes_ofJson
  refine decodes_recordOf ?_ (fun members hgiven => ?_) (fun items hlisted => ?_)
  · exact .cons ⟨rfl, (decodes_text _).checked⟩ (.cons ⟨rfl, (decodes_text _).checked⟩
      (.cons ⟨rfl, hproperties.checked⟩ (.cons ⟨rfl, htags.checked⟩ .nil)))
  · simp only [spelledFields, List.forall_mem_cons] at hgiven
    obtain ⟨hname, howner, hgivenProperties, hgivenTags, -⟩ := hgiven
    have hproperties : memberOr "properties" [] (listOf Property.ofJson) members =
      .ok channel.properties := memberOr_eq_ok hgivenProperties hproperties Eq.symm
    have htags : memberOr "tags" [] (listOf Tag.ofJson) members = .ok channel.tags :=
      memberOr_eq_ok hgivenTags htags Eq.symm
    rw [ofMembers, member_eq_ok hname (decodes_text _), member_eq_ok howner (decodes_text _),
      hproperties, htags]
    rfl
  · obtain ⟨_, hname, hlisted⟩ := exists_nextItem hlisted id (decodes_text _)
      (recordShape "Channel" 4) 0
    obtain ⟨_, howner, hlisted⟩ := exists_nextItem hlisted id (decodes_text _)
      (recordShape "Channel" 4) 1
    obtain ⟨_, hproperties, hlisted⟩ := exists_nextItemOr hlisted hproperties Eq.symm
    obtain ⟨_, htags, hlisted⟩ := exists_nextItemOr hlisted htags Eq.symm
    simp only [ofItems, hname, howner, hproperties, htags, noMoreItems_eq_ok hlisted, bind,
      Except.bind]
    rfl

theorem spelled_toJson (channel : Channel) : channel.Spelled channel.toJson := by
  have hproperties := spellsList_map Property.spelled_toJson channel.properties
  have htags := spellsList_map Tag.spelled_toJson channel.tags
  refine spellsRecord_record ?_
  simp [spelledFields, Field.required, Field.defaulted, Field.IsGiven, spellsText_text, hproperties,
    htags]

theorem isGrammatical_toJson (channel : Channel) : channel.toJson.IsGrammatical := by
  simp [toJson, Property.isGrammatical_toJson, Tag.isGrammatical_toJson]

end Channel

namespace Entry

/-- An entry is spelled by an array of its key and its values only. -/
def Spelled (entry : Entry) (document : Document) : Prop :=
  ∃ key values, document = .array [key, values] ∧ SpellsText entry.key key ∧
    SpellsList SpellsText entry.values values

theorem decodes_ofJson (entry : Entry) : Decodes ofJson entry entry.Spelled := by
  rintro _ ⟨key, values, rfl, hkey, hvalues⟩
  have hpair : pairOf text (listOf text) (.array [key, values]) = .ok (entry.key, entry.values) := by
    rw [pairOf, nextItem, decodes_text entry.key key hkey]
    show (nextItem "a tuple of size 2" 1 (listOf text) [values] >>= _) = _
    rw [nextItem, decodes_listOf entry.values decodes_text values hvalues]
    rfl
  rw [ofJson, hpair]
  rfl

theorem spelled_toJson (entry : Entry) : entry.Spelled entry.toJson :=
  ⟨_, _, rfl, spellsText_text entry.key, spellsList_map spellsText_text entry.values⟩

theorem isGrammatical_toJson (entry : Entry) : entry.toJson.IsGrammatical := by
  simp [toJson]

end Entry

namespace Request

def spelledFields (request : Request) : List Field :=
  [.required "entries" (SpellsList Entry.Spelled request.entries)]

def Spelled (request : Request) : Document → Prop :=
  SpellsRecord request.spelledFields

theorem decodes_ofJson (request : Request) : Decodes ofJson request request.Spelled := by
  have hentries := decodes_listOf request.entries Entry.decodes_ofJson
  refine decodes_recordOf ?_ (fun members hgiven => ?_) (fun items hlisted => ?_)
  · exact .cons ⟨rfl, hentries.checked⟩ .nil
  · rw [ofMembers, member_eq_ok (hgiven _ List.mem_cons_self) hentries]
    rfl
  · obtain ⟨_, hentries, hlisted⟩ := exists_nextItem hlisted id hentries
      (recordShape "MatchRequest" 1) 0
    simp only [ofItems, hentries, noMoreItems_eq_ok hlisted, bind, Except.bind]
    rfl

theorem spelled_toJson (request : Request) : request.Spelled request.toJson := by
  refine spellsRecord_record (List.forall_mem_singleton.2 ?_)
  exact spellsList_map Entry.spelled_toJson request.entries

theorem isGrammatical_toJson (request : Request) : request.toJson.IsGrammatical := by
  simp [toJson, Entry.isGrammatical_toJson]

end Request

namespace Config

/-- The fields of a configuration.  All but the path may be left out. -/
def spelledFields (config : Config) : List Field :=
  [.required "path" (SpellsText config.path),
    .defaulted "read_only" (fun document => document = .bool config.readOnly)
      (config.readOnly = defaultReadOnly),
    .defaulted "busy_timeout_ms" (fun document => document = .int config.busyTimeoutMs.toNat)
      (config.busyTimeoutMs = defaultBusyTimeoutMs)]

def Spelled (config : Config) : Document → Prop :=
  SpellsRecord config.spelledFields

theorem decodes_ofJson (config : Config) : Decodes ofJson config config.Spelled := by
  have hpath : Decodes pathText config.path (SpellsText config.path) :=
    decodes_textAs "path string" config.path
  have hreadOnly : Decodes boolean config.readOnly fun document =>
      document = .bool config.readOnly := by
    rintro _ rfl
    rfl
  have htimeout : Decodes milliseconds config.busyTimeoutMs fun document =>
      document = .int config.busyTimeoutMs.toNat := by
    intro document hspelled
    have hhigh : (config.busyTimeoutMs.toNat : Int) ≤ 0xFFFFFFFFFFFFFFFF :=
      Int.ofNat_le.2 (Nat.le_of_lt_succ config.busyTimeoutMs.toNat_lt)
    have hword : unsignedWord document = .ok (config.busyTimeoutMs.toNat : Int) :=
      decodes_integerAs "u64" (Int.natCast_nonneg _) hhigh (by decide) (by decide) document hspelled
    rw [milliseconds, hword]
    exact congrArg Except.ok (UInt64.ofNat_toNat)
  refine decodes_recordOf ?_ (fun members hgiven => ?_) (fun items hlisted => ?_)
  · exact .cons ⟨rfl, hpath.checked⟩ (.cons ⟨rfl, hreadOnly.checked⟩
      (.cons ⟨rfl, htimeout.checked⟩ .nil))
  · simp only [spelledFields, List.forall_mem_cons] at hgiven
    obtain ⟨hgivenPath, hgivenReadOnly, hgivenTimeout, -⟩ := hgiven
    have hreadOnly : memberOr "read_only" defaultReadOnly boolean members = .ok config.readOnly :=
      memberOr_eq_ok hgivenReadOnly hreadOnly Eq.symm
    have htimeout : memberOr "busy_timeout_ms" defaultBusyTimeoutMs milliseconds members =
      .ok config.busyTimeoutMs := memberOr_eq_ok hgivenTimeout htimeout Eq.symm
    rw [ofMembers, member_eq_ok hgivenPath hpath, hreadOnly, htimeout]
    rfl
  · obtain ⟨_, hpath, hlisted⟩ := exists_nextItem hlisted id hpath (recordShape "DbConfig" 3) 0
    obtain ⟨_, hreadOnly, hlisted⟩ := exists_nextItemOr hlisted hreadOnly Eq.symm
    obtain ⟨_, htimeout, hlisted⟩ := exists_nextItemOr hlisted htimeout Eq.symm
    simp only [ofItems, hpath, hreadOnly, htimeout, noMoreItems_eq_ok hlisted, bind, Except.bind]
    rfl

theorem spelled_toJson (config : Config) : config.Spelled config.toJson := by
  refine spellsRecord_record ?_
  simp [spelledFields, Field.required, Field.defaulted, Field.IsGiven, spellsText_text]

theorem isGrammatical_toJson (config : Config) : config.toJson.IsGrammatical := by
  simp [toJson]

end Config

/-! ## Texts of records -/

/-- A configuration is read from each text that spells it, unless its path is empty. -/
theorem Config.ofText_eq_ok {config : Config} (hpath : config.path ≠ "") {text : String}
    (htext : SpelledBy config.Spelled text) : Config.ofText text = .ok config := by
  rw [Config.ofText, config.decodes_ofJson.read_eq_ok htext]
  exact if_neg hpath

/-- **What a record is written as is read as the record.** -/
theorem read_toText_toJson :
    (∀ id : ChannelId, read ChannelId.ofJson id.toJson.toText = .ok id) ∧
    (∀ row : Row, read Row.ofJson row.toJson.toText = .ok row) ∧
    (∀ property : Property, read Property.ofJson property.toJson.toText = .ok property) ∧
    (∀ tag : Tag, read Tag.ofJson tag.toJson.toText = .ok tag) ∧
    (∀ channel : Channel, read Channel.ofJson channel.toJson.toText = .ok channel) ∧
    (∀ request : Request, read Request.ofJson request.toJson.toText = .ok request) ∧
    (∀ config : Config, config.path ≠ "" → Config.ofText config.toJson.toText = .ok config) :=
  ⟨fun id => id.decodes_ofJson.read_toText rfl id.isGrammatical_toJson,
    fun row => row.decodes_ofJson.read_toText row.spelled_toJson row.isGrammatical_toJson,
    fun property =>
      property.decodes_ofJson.read_toText property.spelled_toJson property.isGrammatical_toJson,
    fun tag => tag.decodes_ofJson.read_toText tag.spelled_toJson tag.isGrammatical_toJson,
    fun channel =>
      channel.decodes_ofJson.read_toText channel.spelled_toJson channel.isGrammatical_toJson,
    fun request =>
      request.decodes_ofJson.read_toText request.spelled_toJson request.isGrammatical_toJson,
    fun config hpath => Config.ofText_eq_ok hpath
      (spelledBy_toText config.spelled_toJson config.isGrammatical_toJson)⟩

/-- A path with characters that must be escaped, and the longest timeout. -/
theorem ofText_toText_escapedPath :
    let config : Config := ⟨"C:\\data\t\"é\".db\x01", false, 0xFFFFFFFFFFFFFFFF⟩
    config.path ≠ "" ∧ Config.ofText config.toJson.toText = .ok config := by
  intro config
  have hpath : config.path ≠ "" := by decide
  obtain ⟨-, -, -, -, -, -, hconfig⟩ := read_toText_toJson
  exact ⟨hpath, hconfig config hpath⟩

/-- **Every text that spells a record is read as the record.** -/
theorem read_of_spelledBy :
    (∀ (row : Row) (text : String), SpelledBy row.Spelled text → read Row.ofJson text = .ok row) ∧
    (∀ (property : Property) (text : String), SpelledBy property.Spelled text →
      read Property.ofJson text = .ok property) ∧
    (∀ (tag : Tag) (text : String), SpelledBy tag.Spelled text → read Tag.ofJson text = .ok tag) ∧
    (∀ (channel : Channel) (text : String), SpelledBy channel.Spelled text →
      read Channel.ofJson text = .ok channel) ∧
    (∀ (request : Request) (text : String), SpelledBy request.Spelled text →
      read Request.ofJson text = .ok request) ∧
    (∀ (config : Config) (text : String), config.path ≠ "" → SpelledBy config.Spelled text →
      Config.ofText text = .ok config) :=
  ⟨fun row _ htext => row.decodes_ofJson.read_eq_ok htext,
    fun property _ htext => property.decodes_ofJson.read_eq_ok htext,
    fun tag _ htext => tag.decodes_ofJson.read_eq_ok htext,
    fun channel _ htext => channel.decodes_ofJson.read_eq_ok htext,
    fun request _ htext => request.decodes_ofJson.read_eq_ok htext,
    fun _ _ hpath htext => Config.ofText_eq_ok hpath htext⟩

/-- A channel with its members out of order and without its properties.  A member that means nothing
comes first, and each tag is spelled in another form. -/
def shuffledChannel : Document :=
  .record [("note", .array [.null, .number ⟨true, ['0'], [], ['9', '9', '9']⟩, .object []]),
    ("tags", .array [.array [.text "archived"], .record [("owner", .null), ("name", .text "x")]]),
    ("owner", .text "ops"), ("name", .text "ring:1")]

theorem spelled_shuffledChannel :
    Channel.Spelled ⟨"ring:1", "ops", [], [⟨"archived", none⟩, ⟨"x", none⟩]⟩ shuffledChannel := by
  have hfirst : Tag.Spelled ⟨"archived", none⟩ (.array [.text "archived"]) :=
    .array (.item (spellsText_text "archived") (.done (List.forall_mem_singleton.2 rfl)))
  have hsecond : Tag.Spelled ⟨"x", none⟩ (.record [("owner", .null), ("name", .text "x")]) := by
    refine spellsRecord_record ?_
    simp [Tag.spelledFields, Field.required, Field.defaulted, Field.IsGiven, SpellsOption,
      spellsText_text]
  have htags : SpellsList Tag.Spelled [⟨"archived", none⟩, ⟨"x", none⟩]
      (.array [.array [.text "archived"], .record [("owner", .null), ("name", .text "x")]]) :=
    ⟨_, rfl, .cons hfirst (.cons hsecond .nil)⟩
  refine spellsRecord_record ?_
  simp [Channel.spelledFields, Field.required, Field.defaulted, Field.IsGiven, spellsText_text, htags]

/-- A channel and a configuration, neither as it is written. -/
theorem read_shuffledChannel :
    let channel : Channel := ⟨"ring:1", "ops", [], [⟨"archived", none⟩, ⟨"x", none⟩]⟩
    let config := (Config.ofPath "catalog.db").withReadOnly false
    let configText := "[\"catalog.db\",false]"
    (SpelledBy channel.Spelled shuffledChannel.toText ∧
        read Channel.ofJson shuffledChannel.toText = .ok channel) ∧
      (config.path ≠ "" ∧ SpelledBy config.Spelled configText ∧
        Config.ofText configText = .ok config) := by
  intro channel config configText
  obtain ⟨-, -, -, hchannel, -, hconfig⟩ := read_of_spelledBy
  have hchannelText : SpelledBy channel.Spelled shuffledChannel.toText :=
    spelledBy_toText spelled_shuffledChannel (by decide)
  have hpath : config.path ≠ "" := by decide
  have hconfigText : SpelledBy config.Spelled configText := by
    have hspelled : config.Spelled (.array [.text "catalog.db", .bool false]) :=
      .array (.item (spellsText_text "catalog.db") (.item rfl
        (.done (List.forall_mem_singleton.2 rfl))))
    exact spelledBy_toText hspelled (by decide)
  exact ⟨⟨hchannelText, hchannel channel _ hchannelText⟩,
    hpath, hconfigText, hconfig config _ hpath hconfigText⟩

end ChannelCatalog
