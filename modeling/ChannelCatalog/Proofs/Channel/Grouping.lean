import ChannelCatalog.Channel
import Mathlib.Data.List.Basic

/-!
# Rows grouped into channels

Rows are grouped from the last to the first.  What comes out is one channel for each run of rows with
one channel name: it has the owner of the first row of the run, and the properties and the tags that
the rows of the run carry, in their order (`groupRows_run_append`).
-/

namespace ChannelCatalog

open Text (lowercase)

/-- The property that a row carries: a name with a value. -/
def Row.property? (row : Row) : Option Property :=
  match row.propertyName, row.propertyValue with
  | some name, some value => some ⟨name, value, row.propertyOwner⟩
  | _, _ => none

/-- The tag that a row carries: a name without a value. -/
def Row.tag? (row : Row) : Option Tag :=
  match row.propertyName, row.propertyValue with
  | some name, none => some ⟨name, row.propertyOwner⟩
  | _, _ => none

theorem Row.property?_eq_some_iff {row : Row} {property : Property} :
    row.property? = some property ↔ row.propertyName = some property.name ∧
      row.propertyValue = some property.value ∧ row.propertyOwner = property.owner := by
  obtain ⟨-, -, name, value, owner⟩ := row
  obtain ⟨⟩ := property
  cases name <;> cases value <;> simp [property?]

theorem Row.tag?_eq_some_iff {row : Row} {tag : Tag} :
    row.tag? = some tag ↔ row.propertyName = some tag.name ∧ row.propertyValue = none ∧
      row.propertyOwner = tag.owner := by
  obtain ⟨-, -, name, value, owner⟩ := row
  obtain ⟨⟩ := tag
  cases name <;> cases value <;> simp [tag?]

namespace Channel

/-- The channel of a run of rows. -/
def ofRun (first : Row) (more : List Row) : Channel :=
  ⟨first.channelName, first.channelOwner, (first :: more).filterMap Row.property?,
    (first :: more).filterMap Row.tag?⟩

theorem mem_properties_ofRun {first : Row} {more : List Row} {property : Property} :
    property ∈ (ofRun first more).properties ↔
      ∃ row ∈ first :: more, row.property? = some property :=
  List.mem_filterMap

theorem mem_tags_ofRun {first : Row} {more : List Row} {tag : Tag} :
    tag ∈ (ofRun first more).tags ↔ ∃ row ∈ first :: more, row.tag? = some tag :=
  List.mem_filterMap

theorem ofRow_nil (row : Row) : ofRow row [] [] = ofRun row [] := by
  obtain ⟨-, -, name, value, owner⟩ := row
  cases name <;> cases value <;> rfl

/-- What a row carries comes before what the rows after it carry. -/
theorem ofRow_ofRun (row next : Row) (more : List Row) :
    ofRow row (ofRun next more).properties (ofRun next more).tags = ofRun row (next :: more) := by
  obtain ⟨-, -, name, value, owner⟩ := row
  cases name <;> cases value <;> rfl

/-- The first channel has the name of the first row. -/
theorem exists_groupRows_cons (row : Row) (rest : List Row) :
    ∃ channel others, groupRows (row :: rest) = channel :: others ∧
      channel.name = row.channelName := by
  have hname : ∀ properties tags, (ofRow row properties tags).name = row.channelName := by
    intro properties tags
    obtain ⟨-, -, name, value, owner⟩ := row
    cases name <;> cases value <;> rfl
  rw [groupRows]
  split
  · split
    · exact ⟨_, _, rfl, hname _ _⟩
    · exact ⟨_, _, rfl, hname _ _⟩
  · exact ⟨_, _, rfl, hname _ _⟩

/-- **A run of rows becomes one channel.**  The run ends where the next row has another channel
name, or where there is no row left. -/
theorem groupRows_run_append {first : Row} {more rest : List Row}
    (hrun : ∀ row ∈ more, row.channelName = first.channelName)
    (hrest : ∀ row ∈ rest.head?, row.channelName ≠ first.channelName) :
    groupRows (first :: more ++ rest) = ofRun first more :: groupRows rest := by
  induction more generalizing first with
  | nil =>
      cases rest with
      | nil => rw [← ofRow_nil]; rfl
      | cons next last =>
          obtain ⟨channel, others, hgroup, hname⟩ := exists_groupRows_cons next last
          have hends : channel.name ≠ first.channelName := hname ▸ hrest next rfl
          rw [List.cons_append, List.nil_append, groupRows, hgroup]
          simp only [if_neg hends, ofRow_nil]
  | cons next more ih =>
      rw [List.forall_mem_cons] at hrun
      obtain ⟨hnext, hmore⟩ := hrun
      have hgroup := ih (fun row hrow => (hmore row hrow).trans hnext.symm) (hnext ▸ hrest)
      have hsame : (ofRun next more).name = first.channelName := hnext
      rw [List.cons_append, groupRows, hgroup]
      simp only [if_pos hsame, ofRow_ofRun]

/-! ## How many rows a channel comes from -/

/-- The number of rows of a channel: one for each property and each tag, or one if it has none. -/
def rowCount (channel : Channel) : Nat :=
  max 1 (channel.properties.length + channel.tags.length)

/-- A row with a name carries a property or a tag, and not both. -/
theorem length_filterMap_add {rows : List Row} (hnamed : ∀ row ∈ rows, row.propertyName ≠ none) :
    (rows.filterMap Row.property?).length + (rows.filterMap Row.tag?).length = rows.length := by
  induction rows with
  | nil => rfl
  | cons row rest ih =>
      rw [List.forall_mem_cons] at hnamed
      obtain ⟨hrow, hrest⟩ := hnamed
      have hrest := ih hrest
      obtain ⟨name, hname⟩ := Option.ne_none_iff_exists'.1 hrow
      cases hvalue : row.propertyValue with
      | none =>
          simp only [List.filterMap_cons, Row.property?, Row.tag?, hname, hvalue, List.length_cons]
          omega
      | some value =>
          simp only [List.filterMap_cons, Row.property?, Row.tag?, hname, hvalue, List.length_cons]
          omega

theorem rowCount_ofRun_of_named {first : Row} {more : List Row}
    (hnamed : ∀ row ∈ first :: more, row.propertyName ≠ none) :
    (ofRun first more).rowCount = (first :: more).length := by
  rw [rowCount, ofRun, length_filterMap_add hnamed, List.length_cons]
  omega

theorem rowCount_ofRun_of_unnamed {row : Row} (hnone : row.propertyName = none) :
    (ofRun row []).rowCount = 1 := by
  simp [rowCount, ofRun, Row.property?, Row.tag?, hnone]

/-! ## Lookup by name -/

/-- There is a value for a name if there is a property spelled like it, in lower case. -/
theorem isSome_property?_iff {channel : Channel} {name : String} :
    (channel.property? name).isSome = true ↔
      ∃ property ∈ channel.properties, lowercase property.name = lowercase name := by
  simp [property?]

theorem hasTag_iff {channel : Channel} {name : String} :
    channel.hasTag name = true ↔ ∃ tag ∈ channel.tags, lowercase tag.name = lowercase name := by
  simp [hasTag]

end Channel
end ChannelCatalog
