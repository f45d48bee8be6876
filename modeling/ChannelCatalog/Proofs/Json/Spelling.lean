import ChannelCatalog.Json.Decoder
import ChannelCatalog.Proofs.Json.Printing
import Mathlib.Data.List.Forall2

/-!
# Documents that spell a value

A value has more than one spelling.  A text may be escaped in several ways.  A record is an object or
an array.  In an object the fields stand in any order and among members that mean nothing, and some may
be left out.  In an array they stand in the order of their declaration, and the last may be left out if
they can be supplied (`SpellsRecord`).  A decoder gives the value for every document that spells it
(`Decodes`), and this is shown of records from their fields (`decodes_recordOf`).
-/

namespace ChannelCatalog
namespace Json

/-! ## Spellings -/

def SpellsText (content : String) (document : Document) : Prop :=
  ∃ spelling, document = .string spelling ∧ unescape? spelling = some content.toList

/-- An absent text is spelled by null. -/
def SpellsOption : Option String → Document → Prop
  | none, document => document = .null
  | some content, document => SpellsText content document

def SpellsList {α : Type} (spelled : α → Document → Prop) (values : List α)
    (document : Document) : Prop :=
  ∃ items, document = .array items ∧ List.Forall₂ spelled values items

/-- A field of a record, with the value that it has there. -/
structure Field where
  name : String
  /-- The documents that spell the value. -/
  spelled : Document → Prop
  /-- Whether the field may be left out of an object. -/
  omittable : Prop
  /-- Whether the field may be left out at the end of an array. -/
  droppable : Prop

namespace Field

def required (name : String) (spelled : Document → Prop) : Field :=
  ⟨name, spelled, False, False⟩

/-- A text that may be absent, and which then may be left out of an object. -/
def optional (name : String) (value : Option String) : Field :=
  ⟨name, SpellsOption value, value = none, False⟩

/-- A field that may be left out where it has its default. -/
def defaulted (name : String) (spelled : Document → Prop) (isDefault : Prop) : Field :=
  ⟨name, spelled, isDefault, isDefault⟩

/-- The members of an object give the field once, or not at all if it may be left out. -/
def IsGiven (field : Field) (members : List (String × Document)) : Prop :=
  match members.filter fun member => member.1 = field.name with
  | [] => field.omittable
  | [member] => field.spelled member.2
  | _ => False

end Field

/-- A member has the given name, however it is escaped. -/
def Names (member : List Char × Document) (named : String × Document) : Prop :=
  unescape? member.1 = some named.1.toList ∧ member.2 = named.2

/-- The items of an array give the fields in their order, up to the last ones that may be left
out. -/
inductive Listed : List Field → List Document → Prop
  | done {fields : List Field} (hdroppable : ∀ field ∈ fields, field.droppable) : Listed fields []
  | item {field : Field} {fields : List Field} {item : Document} {items : List Document}
      (hspelled : field.spelled item) (hrest : Listed fields items) :
      Listed (field :: fields) (item :: items)

/-- The documents that spell a record. -/
inductive SpellsRecord (fields : List Field) : Document → Prop
  | object {members : List (List Char × Document)} {named : List (String × Document)}
      (hnames : List.Forall₂ Names members named) (hgiven : ∀ field ∈ fields, field.IsGiven named) :
      SpellsRecord fields (.object members)
  | array {items : List Document} (hlisted : Listed fields items) : SpellsRecord fields (.array items)

/-! ## Decoding what is spelled -/

/-- The decoder gives the value for every document that spells it. -/
def Decodes {α : Type} (decode : Decoder α) (value : α) (spelled : Document → Prop) : Prop :=
  ∀ document, spelled document → decode document = .ok value

theorem readText_eq_ok {spelling : List Char} {content : String}
    (h : unescape? spelling = some content.toList) : readText spelling = .ok content := by
  simp [readText, h]

theorem decodes_textAs (expected content : String) :
    Decodes (textAs expected) content (SpellsText content) := by
  rintro _ ⟨spelling, rfl, hspelling⟩
  exact readText_eq_ok hspelling

theorem decodes_text (content : String) : Decodes text content (SpellsText content) :=
  decodes_textAs "a string" content

theorem decodes_orNull (value : Option String) :
    Decodes (orNull text) value (SpellsOption value) := by
  intro document hspelled
  cases value with
  | none =>
      obtain rfl := hspelled
      rfl
  | some content =>
      have hdecoded := decodes_text content document hspelled
      obtain ⟨spelling, rfl, -⟩ := hspelled
      simp [orNull, hdecoded, Except.map]

theorem decodes_listOf {α : Type} {decode : Decoder α} {spelled : α → Document → Prop}
    (values : List α) (hdecodes : ∀ value, Decodes decode value (spelled value)) :
    Decodes (listOf decode) values (SpellsList spelled values) := by
  rintro _ ⟨items, rfl, hitems⟩
  show decodeItems decode items = .ok values
  induction hitems with
  | nil => rfl
  | cons hitem _ ih =>
      rw [decodeItems, hdecodes _ _ hitem, ih]
      rfl

/-- An integer in range is decoded from the numeral that it is written as. -/
theorem decodes_integerAs (expected : String) {low high n : Int} (hlow : low ≤ n)
    (hhigh : n ≤ high) (hsigned : -0x8000000000000000 ≤ low) (hunsigned : high < 0x10000000000000000) :
    Decodes (integerAs expected low high) n fun document => document = .int n := by
  rintro _ rfl
  have hvalue : readNumber (.ofInt n) = .ok (.integer n) := by
    rw [readNumber,
      Numeral.value?_ofInt (Int.le_trans hsigned hlow) (Int.lt_of_le_of_lt hhigh hunsigned)]
  simp [integerAs, Document.int, hvalue, hlow, hhigh, bind, Except.bind, pure, Except.pure]

theorem Decodes.checked {α : Type} {decode : Decoder α} {value : α} {spelled : Document → Prop}
    (h : Decodes decode value spelled) : Decodes (checked decode) () spelled := by
  intro document hspelled
  rw [Json.checked, h document hspelled]
  rfl

/-! ## Members of an object -/

/-- A field and what checks the members of its name. -/
def Field.IsChecked (field : Field) (known : String × Decoder Unit) : Prop :=
  known.1 = field.name ∧ Decodes known.2 () field.spelled

theorem exists_field_of_lookup {fields : List Field} {known : List (String × Decoder Unit)}
    (hknown : List.Forall₂ Field.IsChecked fields known) {name : String} {check : Decoder Unit}
    (h : known.lookup name = some check) :
    ∃ field ∈ fields, field.name = name ∧ Decodes check () field.spelled := by
  induction hknown with
  | nil => cases h
  | @cons field first fields rest hfirst _ ih =>
      obtain ⟨firstName, firstCheck⟩ := first
      obtain ⟨rfl, hchecks⟩ := hfirst
      rw [List.lookup_cons] at h
      split at h
      · rename_i hname
        obtain rfl := Option.some.inj h
        exact ⟨field, List.mem_cons_self, (eq_of_beq hname).symm, hchecks⟩
      · obtain ⟨other, hmem, hother⟩ := ih h
        exact ⟨other, List.mem_cons_of_mem _ hmem, hother⟩

/-- What checking members asks of those that are left: a known name comes at most once more, with a
value that can be decoded, and no more once it has been seen. -/
def Field.IsExpected (field : Field) (seen : List String) (members : List (String × Document)) :
    Prop :=
  (∀ value, (field.name, value) ∈ members → field.spelled value) ∧
    (members.map Prod.fst).count field.name + (if field.name ∈ seen then 1 else 0) ≤ 1

theorem checkMembers_eq_ok {fields : List Field} {known : List (String × Decoder Unit)}
    (hknown : List.Forall₂ Field.IsChecked fields known) {seen : List String}
    {members : List (String × Document)}
    (hexpected : ∀ field ∈ fields, field.IsExpected seen members) :
    checkMembers known seen members = .ok () := by
  induction members generalizing seen with
  | nil => rfl
  | cons member rest ih =>
      obtain ⟨name, value⟩ := member
      have hrest : ∀ field ∈ fields, field.IsExpected seen rest := by
        intro field hfield
        obtain ⟨hspelled, honce⟩ := hexpected field hfield
        refine ⟨fun v hv => hspelled v (List.mem_cons_of_mem _ hv), ?_⟩
        rw [List.map_cons, List.count_cons] at honce
        omega
      rw [checkMembers]
      cases hlookup : known.lookup name with
      | none => exact ih hrest
      | some check =>
          obtain ⟨field, hfield, rfl, hchecks⟩ := exists_field_of_lookup hknown hlookup
          obtain ⟨hspelled, honce⟩ := hexpected field hfield
          rw [List.map_cons, List.count_cons_self] at honce
          have hunseen : field.name ∉ seen := by
            intro hseen
            rw [if_pos hseen] at honce
            omega
          have hnext : ∀ other ∈ fields, other.IsExpected (field.name :: seen) rest := by
            intro other hother
            obtain ⟨hspelled', honce'⟩ := hexpected other hother
            refine ⟨fun v hv => hspelled' v (List.mem_cons_of_mem _ hv), ?_⟩
            -- The member that is passed over counts as seen from now on.
            by_cases hsame : other.name = field.name
            · rw [hsame, if_pos List.mem_cons_self]
              omega
            · rw [List.map_cons, List.count_cons_of_ne (Ne.symm hsame)] at honce'
              simpa [hsame] using honce'
          simp only [if_neg hunseen, hchecks value (hspelled value List.mem_cons_self)]
          exact ih hnext

theorem lookup_eq_head?_filter (name : String) (members : List (String × Document)) :
    members.lookup name =
      ((members.filter fun member => member.1 = name).head?).map Prod.snd := by
  induction members with
  | nil => rfl
  | cons member rest ih =>
      rw [List.lookup_cons, List.filter_cons, ih]
      by_cases hname : member.1 = name
      · simp [hname]
      · have hother : (name == member.1) = false := beq_eq_false_iff_ne.2 (Ne.symm hname)
        simp [hname, hother]

theorem count_eq_length_filter (name : String) (members : List (String × Document)) :
    (members.map Prod.fst).count name =
      (members.filter fun member => member.1 = name).length := by
  induction members with
  | nil => rfl
  | cons member rest ih =>
      rw [List.map_cons, List.count_cons, List.filter_cons, ih]
      by_cases hname : member.1 = name <;> simp [hname]

namespace Field.IsGiven

variable {field : Field} {members : List (String × Document)}

/-- A field that is given has a member that spells it, or none. -/
theorem spelled_or_omittable (h : field.IsGiven members) :
    (∃ member, (members.filter fun member => member.1 = field.name) = [member] ∧
      field.spelled member.2) ∨
    (members.filter fun member => member.1 = field.name) = [] ∧ field.omittable := by
  unfold IsGiven at h
  split at h
  · rename_i hnone
    exact Or.inr ⟨hnone, h⟩
  · rename_i member hone
    exact Or.inl ⟨member, hone, h⟩
  · exact h.elim

theorem isExpected (h : field.IsGiven members) : field.IsExpected [] members := by
  have hmem : ∀ value, (field.name, value) ∈ members →
      (field.name, value) ∈ members.filter fun member => member.1 = field.name := fun value hvalue =>
    List.mem_filter.2 ⟨hvalue, decide_eq_true rfl⟩
  rw [IsExpected, count_eq_length_filter, if_neg List.not_mem_nil]
  rcases h.spelled_or_omittable with ⟨member, hone, hspelled⟩ | ⟨hnone, -⟩
  · rw [hone] at hmem ⊢
    refine ⟨fun value hvalue => ?_, Nat.le_refl 1⟩
    obtain rfl := List.mem_singleton.1 (hmem value hvalue)
    exact hspelled
  · rw [hnone] at hmem ⊢
    exact ⟨fun value hvalue => absurd (hmem value hvalue) List.not_mem_nil, Nat.zero_le 1⟩

end Field.IsGiven

/-- A member that must be there is decoded. -/
theorem member_eq_ok {α : Type} {name : String} {spelled : Document → Prop}
    {members : List (String × Document)} (hgiven : (Field.required name spelled).IsGiven members)
    {decode : Decoder α} {value : α} (hdecodes : Decodes decode value spelled) :
    member name decode members = .ok value := by
  rcases hgiven.spelled_or_omittable with ⟨member, hone, hspelled⟩ | ⟨-, himpossible⟩
  · have hlookup : members.lookup name = some member.2 := by
      rw [lookup_eq_head?_filter]
      exact congrArg (fun own => own.head?.map Prod.snd) hone
    rw [Json.member, hlookup]
    exact hdecodes member.2 hspelled
  · exact himpossible.elim

/-- A member that may be left out is decoded or supplied. -/
theorem memberOr_eq_ok {α : Type} {field : Field} {members : List (String × Document)}
    (hgiven : field.IsGiven members) {decode : Decoder α} {value default : α}
    (hdecodes : Decodes decode value field.spelled) (hdefault : field.omittable → default = value) :
    memberOr field.name default decode members = .ok value := by
  rw [memberOr, lookup_eq_head?_filter]
  rcases hgiven.spelled_or_omittable with ⟨member, hone, hspelled⟩ | ⟨hnone, homittable⟩
  · rw [hone]
    exact hdecodes member.2 hspelled
  · rw [hnone]
    exact congrArg Except.ok (hdefault homittable)

/-! ## Items of an array -/

section Items

variable {α : Type} {field : Field} {fields : List Field} {items : List Document}
  {decode : Decoder α} {value : α}

/-- An item that must be there is decoded. -/
theorem exists_nextItem (hlisted : Listed (field :: fields) items) (hneeded : ¬ field.droppable)
    (hdecodes : Decodes decode value field.spelled) (shape : String) (index : Nat) :
    ∃ rest, nextItem shape index decode items = .ok (value, rest) ∧ Listed fields rest := by
  cases hlisted with
  | done hdroppable => exact absurd (hdroppable field List.mem_cons_self) hneeded
  | item hspelled hrest =>
      exact ⟨_, by rw [nextItem, hdecodes _ hspelled]; rfl, hrest⟩

/-- An item that may be left out is decoded or supplied. -/
theorem exists_nextItemOr (hlisted : Listed (field :: fields) items)
    (hdecodes : Decodes decode value field.spelled) {default : α}
    (hdefault : field.droppable → default = value) :
    ∃ rest, nextItemOr default decode items = .ok (value, rest) ∧ Listed fields rest := by
  cases hlisted with
  | done hdroppable =>
      rw [List.forall_mem_cons] at hdroppable
      exact ⟨[], by rw [nextItemOr, hdefault hdroppable.1], .done hdroppable.2⟩
  | item hspelled hrest =>
      exact ⟨_, by rw [nextItemOr, hdecodes _ hspelled]; rfl, hrest⟩

theorem noMoreItems_eq_ok (hlisted : Listed [] items) : noMoreItems items = .ok () := by
  cases hlisted
  rfl

end Items

/-! ## Records -/

theorem memberTexts_eq_ok {members : List (List Char × Document)} {named : List (String × Document)}
    (hnames : List.Forall₂ Names members named) : memberTexts members = .ok named := by
  induction hnames with
  | nil => rfl
  | @cons member named members rest hmember _ ih =>
      obtain ⟨spelling, value⟩ := member
      obtain ⟨hname, rfl⟩ := hmember
      rw [memberTexts, readText_eq_ok hname, ih]
      rfl

/-- **A record is decoded from each of its spellings** if it is decoded from its members and from its
items. -/
theorem decodes_recordOf {α : Type} {name : String} {fields : List Field}
    {known : List (String × Decoder Unit)}
    {ofMembers : List (String × Document) → Except DecodeError α}
    {ofItems : List Document → Except DecodeError α} {value : α}
    (hknown : List.Forall₂ Field.IsChecked fields known)
    (hmembers : ∀ members, (∀ field ∈ fields, field.IsGiven members) →
      ofMembers members = .ok value)
    (hitems : ∀ items, Listed fields items → ofItems items = .ok value) :
    Decodes (recordOf name known ofMembers ofItems) value (SpellsRecord fields) := by
  intro document hspelled
  cases hspelled with
  | array hlisted => exact hitems _ hlisted
  | @object members named hnames hgiven =>
      have hchecked : checkMembers known [] named = .ok () :=
        checkMembers_eq_ok hknown fun field hfield => (hgiven field hfield).isExpected
      simp only [recordOf, memberTexts_eq_ok hnames, hchecked, bind, Except.bind]
      exact hmembers named hgiven

/-! ## Records as they are written -/

theorem names_escape (member : String × Document) :
    Names (escape member.1.toList, member.2) member :=
  ⟨unescape?_escape member.1.toList, rfl⟩

/-- A record with all its members spells its fields. -/
theorem spellsRecord_record {fields : List Field} {members : List (String × Document)}
    (hgiven : ∀ field ∈ fields, field.IsGiven members) :
    SpellsRecord fields (.record members) := by
  refine .object (List.forall₂_map_left_iff.2 ?_) hgiven
  exact List.forall₂_same.2 fun member _ => names_escape member

theorem spellsText_text (content : String) : SpellsText content (.text content) :=
  ⟨escape content.toList, rfl, unescape?_escape content.toList⟩

theorem spellsList_map {α : Type} {spelled : α → Document → Prop} {toJson : α → Document}
    (hspelled : ∀ value, spelled value (toJson value)) (values : List α) :
    SpellsList spelled values (.array (values.map toJson)) :=
  ⟨_, rfl, List.forall₂_map_right_iff.2 (List.forall₂_same.2 fun value _ => hspelled value)⟩

/-! ## Texts -/

/-- The texts of the documents that spell a value, with white space between the tokens. -/
def SpelledBy (spelled : Document → Prop) (text : String) : Prop :=
  ∃ document, spelled document ∧ Spaced document.tokens text.toList

section Printed

variable {spelled : Document → Prop} {document : Document}

theorem spelledBy_toText (hspelled : spelled document) (h : document.IsGrammatical) :
    SpelledBy spelled document.toText :=
  ⟨document, hspelled, Document.spaced_toText h⟩

theorem spelledBy_toPrettyText_append (hspelled : spelled document) (h : document.IsGrammatical)
    {space : String} (hspace : ∀ c ∈ space.toList, isSpace c = true) :
    SpelledBy spelled (document.toPrettyText ++ space) :=
  ⟨document, hspelled, Document.spaced_toPrettyText_append h hspace⟩

end Printed

/-- **A text is read as the value that it spells.** -/
theorem Decodes.read_eq_ok {α : Type} {decode : Decoder α} {value : α} {spelled : Document → Prop}
    (h : Decodes decode value spelled) {text : String} (htext : SpelledBy spelled text) :
    read decode text = .ok value := by
  obtain ⟨document, hspelled, hspaced⟩ := htext
  simp [read, parse?_of_spaced hspaced, h document hspelled]

theorem Decodes.read_toText {α : Type} {decode : Decoder α} {value : α} {spelled : Document → Prop}
    (h : Decodes decode value spelled) {document : Document} (hspelled : spelled document)
    (hgrammatical : document.IsGrammatical) : read decode document.toText = .ok value :=
  h.read_eq_ok (spelledBy_toText hspelled hgrammatical)

end Json
end ChannelCatalog
