import ChannelCatalog.Proofs.Glob.Plain
import ChannelCatalog.Proofs.Search.Narrowing
import ChannelCatalog.Proofs.Store.Counting
import ChannelCatalog.Store.Session

/-!
# Which channels a search resolves

The criteria of a search speak of single properties: a key with globs for its value, a tag by its
name, a tag by a glob.  A channel meets them if it has a row for each of them.  The store does not
ask for rows one by one; it counts names in one query and asks for each tag pattern apart.  Both
ways name the same channels, unless two of the counted names fold to the same text: then the count
is never reached, and no channel is left.
-/

namespace ChannelCatalog

open Text (asciiLower)
open Store

/-- The names that one query counts, as the store folds them. -/
def Criteria.foldedNames (criteria : Criteria) (folding : Folding) : List String :=
  (criteria.properties.map Entry.key ++ criteria.exactTags).map folding.lower

namespace Store

/-- A property has the key of an entry, and its value is like one of the globs given for the key;
a key without globs asks for any value. -/
def PropertyRecord.Matches (folding : Folding) (property : PropertyRecord) (entry : Entry) : Prop :=
  property.IsNamed folding entry.key ∧
    if entry.values = [] then property.value ≠ .null
    else ∃ glob ∈ entry.values, property.value.Likes (Glob.toLike glob)

instance (folding : Folding) (property : PropertyRecord) (entry : Entry) :
    Decidable (property.Matches folding entry) :=
  inferInstanceAs (Decidable (property.IsNamed folding entry.key ∧
    if entry.values = [] then property.value ≠ .null
    else ∃ glob ∈ entry.values, property.value.Likes (Glob.toLike glob)))

/-- A property is the tag with the given name. -/
def PropertyRecord.IsTag (folding : Folding) (property : PropertyRecord) (name : String) : Prop :=
  property.IsNamed folding name ∧ property.value = .null

instance (folding : Folding) (property : PropertyRecord) (name : String) :
    Decidable (property.IsTag folding name) :=
  inferInstanceAs (Decidable (_ ∧ _))

/-- A channel has a row for every property key, every exact tag and every tag pattern. -/
structure Tables.Meets (tables : Tables) (folding : Folding) (criteria : Criteria)
    (id : ChannelId) : Prop where
  properties : ∀ entry ∈ criteria.properties,
    tables.HasRow id fun property => property.Matches folding entry
  exactTags : ∀ tag ∈ criteria.exactTags,
    tables.HasRow id fun property => property.IsTag folding tag
  tagPatterns : ∀ glob ∈ criteria.tagPatterns,
    tables.HasRow id fun property => property.IsTagLike folding (asciiLower (Glob.toLike glob))

theorem Tables.meets_iff {tables : Tables} {folding : Folding} {criteria : Criteria}
    {id : ChannelId} :
    tables.Meets folding criteria id ↔
      (∀ entry ∈ criteria.properties,
        tables.HasRow id fun property => property.Matches folding entry) ∧
      (∀ tag ∈ criteria.exactTags,
        tables.HasRow id fun property => property.IsTag folding tag) ∧
      ∀ glob ∈ criteria.tagPatterns, tables.HasRow id fun property =>
        property.IsTagLike folding (asciiLower (Glob.toLike glob)) :=
  ⟨fun h => ⟨h.properties, h.exactTags, h.tagPatterns⟩, fun h => ⟨h.1, h.2.1, h.2.2⟩⟩

instance (tables : Tables) (folding : Folding) (criteria : Criteria) (id : ChannelId) :
    Decidable (tables.Meets folding criteria id) :=
  decidable_of_iff _ Tables.meets_iff.symm

theorem passes_ofProperty_iff {folding : Folding} {property : PropertyRecord} {entry : Entry} :
    property.Passes folding (.ofProperty entry) ↔ property.Matches folding entry := by
  simp [Clause.ofProperty, PropertyRecord.Passes, PropertyRecord.Matches]

theorem passes_tag_iff {folding : Folding} {property : PropertyRecord} {name : String} :
    property.Passes folding (.tag name) ↔ property.IsTag folding name :=
  Iff.rfl

end Store

namespace Criteria

theorem map_name_clauses (criteria : Criteria) (folding : Folding) :
    (criteria.clauses.map fun clause => folding.lower clause.name) =
      criteria.foldedNames folding := by
  simp [clauses, foldedNames, Clause.ofProperty, Clause.name, Function.comp_def]

theorem idQueries_eq_nil_iff {criteria : Criteria} :
    criteria.idQueries = [] ↔
      criteria.properties = [] ∧ criteria.exactTags = [] ∧ criteria.tagPatterns = [] := by
  by_cases h : criteria.requiresPropertyMatch = true
  · have hclauses := requiresPropertyMatch_iff.1 h
    rw [Ne, clauses_eq_nil_iff] at hclauses
    simp [idQueries, propertyMatch?, h]
    tauto
  · have hclauses := not_not.1 (mt requiresPropertyMatch_iff.2 h)
    rw [clauses_eq_nil_iff] at hclauses
    simp [idQueries, propertyMatch?, h, hclauses]

/-- A statement about all queries is one about the counted query, if there is one, and one about
each tag pattern. -/
theorem forall_mem_idQueries {criteria : Criteria} {P : IdQuery → Prop} :
    (∀ query ∈ criteria.idQueries, P query) ↔
      (criteria.clauses ≠ [] → P (.counted criteria.clauses criteria.clauses.length)) ∧
        ∀ glob ∈ criteria.tagPatterns, P (.ofTagPattern glob) := by
  rw [idQueries, List.forall_mem_append, List.forall_mem_map]
  refine and_congr_left fun _ => ?_
  by_cases h : criteria.requiresPropertyMatch = true
  · simp [propertyMatch?, h, requiresPropertyMatch_iff.1 h, length_clauses]
  · simp [propertyMatch?, h, mt requiresPropertyMatch_iff.2 h]

end Criteria

namespace Store

/-- All queries of the criteria fit a channel exactly when it meets the criteria and the counted
names are told apart. -/
theorem fits_all_iff {tables : Tables} {folding : Folding} {criteria : Criteria}
    {id : ChannelId} :
    (∀ query ∈ criteria.idQueries, tables.Fits folding id query) ↔
      (criteria.foldedNames folding).Nodup ∧ tables.Meets folding criteria id := by
  rw [Criteria.forall_mem_idQueries]
  have hclauses : (∀ clause ∈ criteria.clauses,
        tables.HasRow id fun property => property.Passes folding clause) ↔
      (∀ entry ∈ criteria.properties,
        tables.HasRow id fun property => property.Matches folding entry) ∧
      ∀ tag ∈ criteria.exactTags,
        tables.HasRow id fun property => property.IsTag folding tag := by
    simp only [Criteria.clauses, List.forall_mem_append, List.forall_mem_map,
      passes_ofProperty_iff, passes_tag_iff]
  constructor
  · rintro ⟨hcounted, hpatterns⟩
    by_cases hsome : criteria.clauses = []
    · have hnone := Criteria.clauses_eq_nil_iff.1 hsome
      exact ⟨by simp [Criteria.foldedNames, hnone],
        ⟨by simp [hnone], by simp [hnone], hpatterns⟩⟩
    · obtain ⟨hdistinct, hrows⟩ := hcounted hsome
      rw [Criteria.map_name_clauses] at hdistinct
      exact ⟨hdistinct, (hclauses.1 hrows).1, (hclauses.1 hrows).2, hpatterns⟩
  · rintro ⟨hdistinct, hproperties, hexact, hpatterns⟩
    refine ⟨fun _ => ⟨?_, hclauses.2 ⟨hproperties, hexact⟩⟩, hpatterns⟩
    rw [Criteria.map_name_clauses]
    exact hdistinct

/-- What the store accepts of the queries for identifiers: no glob becomes a pattern that is too
long, and the expression of the counted query is not too large. -/
structure Accepts (folding : Folding) (criteria : Criteria) : Prop where
  values : ∀ entry ∈ criteria.properties, ∀ glob ∈ entry.values,
    Like.isTooLong (Glob.toLike glob) = false
  tagPatterns : ∀ glob ∈ criteria.tagPatterns,
    Like.isTooLong (folding.lower (asciiLower (Glob.toLike glob))) = false
  expression : ∀ query ∈ criteria.propertyMatch?, Limits.readIdQuery query = .ok ()

namespace State

variable {state : State} {tables : Tables}

theorem fetchIds_eq_ok_iff (htables : state.tables = some tables) {query : IdQuery}
    {ids : List ChannelId} :
    state.fetchIds query = .ok ids ↔
      Limits.readIdQuery query = .ok () ∧ tables.fetchIds state.folding query = .ok ids := by
  have hfound : state.tablesFor "property" = .ok tables := by simp [tablesFor, htables]
  constructor
  · intro h
    obtain ⟨_, hread, h⟩ := bind_eq_ok_iff.1 h
    rw [hfound] at h
    exact ⟨hread, h⟩
  · rintro ⟨hread, h⟩
    rw [fetchIds, hread, hfound]
    exact h

/-- What the store answers to a query of the criteria are the channels that fit it. -/
theorem mem_fetchIds_iff (htables : state.tables = some tables) {criteria : Criteria}
    {query : IdQuery} (hquery : query ∈ criteria.idQueries) {answer : List ChannelId}
    (h : state.fetchIds query = .ok answer) (id : ChannelId) :
    id ∈ answer ↔ tables.Fits state.folding id query := by
  have hall : ∀ query ∈ criteria.idQueries, tables.fetchIds state.folding query = .ok answer →
      (id ∈ answer ↔ tables.Fits state.folding id query) :=
    Criteria.forall_mem_idQueries.2
      ⟨fun hsome hcounted => mem_fetchIds_counted hsome hcounted id,
        fun _ _ hpattern => mem_fetchIds_tagLike hpattern id⟩
  exact hall query hquery ((fetchIds_eq_ok_iff htables).1 h).2

/-- Accepted criteria have their queries answered. -/
theorem exists_fetchIds (htables : state.tables = some tables) (howned : tables.Owned)
    {criteria : Criteria} (haccepts : Accepts state.folding criteria) {query : IdQuery}
    (hquery : query ∈ criteria.idQueries) : ∃ answer, state.fetchIds query = .ok answer := by
  have hread : ∀ query ∈ criteria.idQueries, Limits.readIdQuery query = .ok () := by
    intro query hquery
    rcases List.mem_append.1 hquery with hcounted | hpattern
    · exact haccepts.expression query (Option.mem_toList.1 hcounted)
    · obtain ⟨glob, -, rfl⟩ := List.mem_map.1 hpattern
      rfl
  have hshort : ∀ clause ∈ criteria.clauses, ∀ pattern ∈ clause.patterns,
      Like.isTooLong pattern = false := by
    intro clause hclause pattern hpattern
    rcases List.mem_append.1 hclause with hproperty | htag
    · obtain ⟨entry, hentry, rfl⟩ := List.mem_map.1 hproperty
      obtain ⟨glob, hglob, rfl⟩ := List.mem_map.1 hpattern
      exact haccepts.values entry hentry glob hglob
    · obtain ⟨tag, -, rfl⟩ := List.mem_map.1 htag
      cases hpattern
  have hanswered : ∀ query ∈ criteria.idQueries,
      ∃ answer, tables.fetchIds state.folding query = .ok answer :=
    Criteria.forall_mem_idQueries.2
      ⟨fun _ => exists_fetchIds_counted state.folding _ howned hshort,
        fun glob hglob => exists_fetchIds_tagLike howned (haccepts.tagPatterns glob hglob)⟩
  obtain ⟨answer, hanswer⟩ := hanswered query hquery
  exact ⟨answer, (fetchIds_eq_ok_iff htables).2 ⟨hread query hquery, hanswer⟩⟩

/-- Accepted criteria are resolved. -/
theorem exists_resolve (htables : state.tables = some tables) (howned : tables.Owned)
    {criteria : Criteria} (haccepts : Accepts state.folding criteria) :
    ∃ restriction, criteria.resolve state.executor = .ok restriction :=
  exists_resolveFrom (fun _ hquery => exists_fetchIds htables howned haccepts hquery) none

theorem resolve_of_idQueries_eq_nil {criteria : Criteria} {restriction : Restriction}
    (hnone : criteria.idQueries = []) (h : criteria.resolve state.executor = .ok restriction) :
    restriction = .unrestricted := by
  rw [Criteria.resolve, hnone] at h
  cases h
  rfl

/-- Criteria on properties or tags leave the channels that meet them, provided that the counted
names are told apart. -/
theorem resolve_leaves (htables : state.tables = some tables) {criteria : Criteria}
    {restriction : Restriction} (hsome : criteria.idQueries ≠ [])
    (h : criteria.resolve state.executor = .ok restriction) :
    restriction.Leaves fun id =>
      (criteria.foldedNames state.folding).Nodup ∧ tables.Meets state.folding criteria id := by
  have hleaves := resolveFrom_leaves
    (fun _ hquery _ hanswer => mem_fetchIds_iff htables hquery hanswer) (by simp) (Or.inr hsome) h
  simpa [InRunning, fits_all_iff] using hleaves

/-- **Counting names is asking for every criterion.**  On any table of properties that all belong
to some channel, resolving criteria that the store accepts succeeds.  A resolution that succeeds
restricts nothing exactly when there are no criteria on properties or tags; else it leaves exactly
the channels that meet the criteria, or nothing at all if two of the counted names fold to the same
text. -/
theorem resolve_leaves_meeting (htables : state.tables = some tables) (howned : tables.Owned)
    (criteria : Criteria) :
    (Accepts state.folding criteria →
      ∃ restriction, criteria.resolve state.executor = .ok restriction) ∧
    ∀ restriction, criteria.resolve state.executor = .ok restriction →
      (restriction = .unrestricted ↔
        criteria.properties = [] ∧ criteria.exactTags = [] ∧ criteria.tagPatterns = []) ∧
      (restriction ≠ .unrestricted → (criteria.foldedNames state.folding).Nodup →
        restriction.Leaves (tables.Meets state.folding criteria)) ∧
      (¬ (criteria.foldedNames state.folding).Nodup → restriction = .noMatch) := by
  refine ⟨exists_resolve htables howned, fun restriction h => ?_⟩
  rw [← Criteria.idQueries_eq_nil_iff]
  by_cases hnone : criteria.idQueries = []
  · have hdistinct : (criteria.foldedNames state.folding).Nodup := by
      simp [Criteria.foldedNames, Criteria.idQueries_eq_nil_iff.1 hnone]
    simp [resolve_of_idQueries_eq_nil hnone h, hnone, hdistinct]
  · have hleaves := resolve_leaves htables hnone h
    have hrestricted : restriction ≠ .unrestricted := by
      rintro rfl
      exact hleaves
    refine ⟨iff_of_false hrestricted hnone, fun _ hdistinct => ?_, fun hclash => ?_⟩
    · simpa [hdistinct] using hleaves
    · cases restriction with
      | unrestricted => exact absurd rfl hrestricted
      | noMatch => rfl
      | only ids =>
          have hempty : ids.isEmpty = true :=
            IdSet.isEmpty_eq_true_iff.2 fun id hid => hclash ((hleaves.2 id).1 hid).1
          rw [hleaves.1] at hempty
          cases hempty

/-- Properties of two channels: the first has two spellings of one key, twice the same value, and a
tag; the second lacks the tag. -/
def paints : State :=
  ⟨some ⟨.unconstrained false, [],
    [⟨some ⟨1⟩, .text "color", .text "red", .null⟩, ⟨some ⟨1⟩, .text "Color", .text "red", .null⟩,
      ⟨some ⟨1⟩, .text "URGENT", .null, .null⟩, ⟨some ⟨2⟩, .text "color", .text "red", .null⟩,
      ⟨some ⟨2⟩, .null, .null, .null⟩], 0⟩, .unicode, none⟩

/-- A red channel with a tag, which is asked for by its name and by a glob. -/
def redAndUrgent : Criteria :=
  { properties := [⟨"COLOR", ["gr*", "r?d"]⟩], exactTags := ["urgent"], tagPatterns := ["Urg*"] }

theorem resolve_leaves_meeting_paints :
    ∃ ids, redAndUrgent.resolve paints.executor = .ok (.only ids) ∧ ⟨1⟩ ∈ ids ∧ ⟨2⟩ ∉ ids := by
  obtain ⟨hresolves, hleaves⟩ :=
    resolve_leaves_meeting (show paints.tables = some _ from rfl) (by decide) redAndUrgent
  obtain ⟨restriction, h⟩ := hresolves ⟨by decide, by decide, by decide⟩
  obtain ⟨hnone, hmeeting, -⟩ := hleaves restriction h
  have hrestricted : restriction ≠ .unrestricted := by
    rw [Ne, hnone]
    decide
  have hend := hmeeting hrestricted (by decide)
  cases restriction with
  | unrestricted => exact absurd rfl hrestricted
  | noMatch => exact absurd (by decide) (hend ⟨1⟩)
  | only ids => exact ⟨ids, h, (hend.2 ⟨1⟩).2 (by decide), fun hid => absurd ((hend.2 ⟨2⟩).1 hid) (by decide)⟩

/-- A pattern that is too long is not compared with the value of a row that has the key: the query
fails instead. -/
theorem resolve_of_isTooLong {glob : String} (hlong : Like.isTooLong (Glob.toLike glob) = true) :
    Criteria.resolve { properties := [⟨"color", [glob]⟩] } paints.executor =
      .error ⟨.propertyMatch, .patternTooLong⟩ := by
  have hread : Limits.readIdQuery (.counted [.property "color" [Glob.toLike glob]] 1) =
      .ok () := rfl
  have hname : (TextCell.text "color").lower .unicode = .text (Folding.lower .unicode "color") :=
    rfl
  have hfetch : paints.fetchIds (.counted [.property "color" [Glob.toLike glob]] 1) =
      .error .patternTooLong := by
    rw [fetchIds, hread]
    simp [tablesFor, paints, Tables.fetchIds, select, PropertyRecord.passesAny,
      PropertyRecord.passes, hname, TextCell.isLikeAny, TextCell.isLike, hlong, bind, Except.bind]
  have hqueries : Criteria.idQueries { properties := [⟨"color", [glob]⟩] } =
      [.counted [.property "color" [Glob.toLike glob]] 1] := rfl
  simp only [Criteria.resolve, hqueries, resolveFrom, executor, hfetch, bind, pure]
  rfl

theorem resolve_overlong :
    Criteria.resolve { properties := [⟨"color", [Glob.overlong]⟩] } paints.executor =
      .error ⟨.propertyMatch, .patternTooLong⟩ :=
  resolve_of_isTooLong Glob.isTooLong_overlong

end State
end Store
end ChannelCatalog
