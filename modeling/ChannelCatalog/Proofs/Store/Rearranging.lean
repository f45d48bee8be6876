import ChannelCatalog.Proofs.Glob.LetterCase
import ChannelCatalog.Proofs.Store.Searching

/-!
# Criteria in another order

A search stops as soon as no channel is left, so the order of its criteria decides which statements
are issued.  It does not decide what is found: what a search should answer speaks of the members of
each bucket only, and there is one such answer.  What the order does decide is whether a limit of the
store is met, since a statement that is not issued, or a pattern that is not compared, cannot fail.
-/

namespace ChannelCatalog

open Text (asciiLower lowercase)
open Store (Folding Step)

/-! ## Rearranged criteria -/

/-- Entries that agree in their keys one by one have the same keys. -/
theorem Entry.map_key_eq_of_forall₂ {R : Entry → Entry → Prop} {entries others : List Entry}
    (h : List.Forall₂ R entries others)
    (hkey : ∀ entry other, R entry other → entry.key = other.key) :
    entries.map key = others.map key := by
  induction h with
  | nil => rfl
  | cons hhead _ ih => rw [List.map_cons, List.map_cons, hkey _ _ hhead, ih]

theorem Entry.forall_mem_of_forall₂ {R : Entry → Entry → Prop} {P Q : Entry → Prop}
    {entries others : List Entry} (h : List.Forall₂ R entries others)
    (hmember : ∀ entry other, R entry other → P entry → Q other)
    (hall : ∀ entry ∈ entries, P entry) : ∀ other ∈ others, Q other := by
  intro other hother
  obtain ⟨entry, hentry, hrelated⟩ := Store.exists_mem_of_forall₂ h other hother
  exact hmember entry other hrelated (hall entry hentry)

/-- The same globs for one key, in any order and any number. -/
structure Entry.SameGlobs (entry other : Entry) : Prop where
  key : entry.key = other.key
  values : ∀ glob, glob ∈ entry.values ↔ glob ∈ other.values

namespace Entry.SameGlobs

theorem values_eq_nil_iff {entry other : Entry} (h : entry.SameGlobs other) :
    entry.values = [] ↔ other.values = [] := by
  simp only [List.eq_nil_iff_forall_not_mem, h.values]

variable {entries others : List Entry} (h : List.Forall₂ SameGlobs entries others)

include h

theorem forall_mem_iff {P : Entry → Prop}
    (hP : ∀ entry other : Entry, entry.SameGlobs other → (P entry ↔ P other)) :
    (∀ entry ∈ entries, P entry) ↔ ∀ entry ∈ others, P entry :=
  ⟨forall_mem_of_forall₂ h fun entry other hglobs => (hP entry other hglobs).1,
    forall_mem_of_forall₂ h.flip fun other entry hglobs => (hP entry other hglobs).2⟩

end Entry.SameGlobs

namespace Criteria

/-- The criteria differ in the order of their buckets and of the globs for each key, and in how often
a glob for names, a tag pattern or a glob for a key is repeated. -/
structure Rearranges (criteria other : Criteria) : Prop where
  names : ∀ glob, glob ∈ criteria.names ↔ glob ∈ other.names
  exactTags : criteria.exactTags.Perm other.exactTags
  tagPatterns : ∀ glob, glob ∈ criteria.tagPatterns ↔ glob ∈ other.tagPatterns
  properties : ∃ middle, criteria.properties.Perm middle ∧
    List.Forall₂ Entry.SameGlobs middle other.properties

namespace Rearranges

variable {criteria other : Criteria} (h : criteria.Rearranges other)

include h

/-- What holds of every property criterion still does, if it does not speak of the order of globs. -/
theorem forall_properties_iff {P : Entry → Prop}
    (hP : ∀ entry another : Entry, entry.SameGlobs another → (P entry ↔ P another)) :
    (∀ entry ∈ criteria.properties, P entry) ↔ ∀ entry ∈ other.properties, P entry := by
  obtain ⟨middle, hperm, hglobs⟩ := h.properties
  simp only [hperm.mem_iff]
  exact Entry.SameGlobs.forall_mem_iff hglobs hP

theorem keys_perm :
    (criteria.properties.map Entry.key).Perm (other.properties.map Entry.key) := by
  obtain ⟨middle, hperm, hglobs⟩ := h.properties
  rw [← Entry.map_key_eq_of_forall₂ hglobs fun _ _ => Entry.SameGlobs.key]
  exact hperm.map Entry.key

/-- The same names are counted. -/
theorem foldedNames_perm (folding : Folding) :
    (criteria.foldedNames folding).Perm (other.foldedNames folding) :=
  (h.keys_perm.append h.exactTags).map folding.lower

theorem hasIdCriteria_eq : criteria.hasIdCriteria = other.hasIdCriteria := by
  have hproperties : criteria.properties = [] ↔ other.properties = [] := by
    rw [← List.map_eq_nil_iff (f := Entry.key), ← List.length_eq_zero_iff, h.keys_perm.length_eq,
      List.length_eq_zero_iff, List.map_eq_nil_iff]
  have hexact : criteria.exactTags = [] ↔ other.exactTags = [] := by
    rw [← List.length_eq_zero_iff, h.exactTags.length_eq, List.length_eq_zero_iff]
  have hpatterns : criteria.tagPatterns = [] ↔ other.tagPatterns = [] := by
    simp only [List.eq_nil_iff_forall_not_mem, h.tagPatterns]
  rw [Bool.eq_iff_iff, hasIdCriteria_iff, hasIdCriteria_iff, Ne, Ne, idQueries_eq_nil_iff,
    idQueries_eq_nil_iff, hproperties, hexact, hpatterns]

end Rearranges
end Criteria

/-! ## What is found -/

namespace Store

theorem PropertyRecord.matches_iff_of_sameGlobs {folding : Folding} {entry other : Entry}
    (h : entry.SameGlobs other) (property : PropertyRecord) :
    property.Matches folding entry ↔ property.Matches folding other := by
  simp only [Matches, h.key, h.values_eq_nil_iff, h.values]

namespace Tables

variable {tables : Tables} {folding : Folding} {criteria other : Criteria}

theorem meets_iff_of_rearranges (h : criteria.Rearranges other) (id : ChannelId) :
    tables.Meets folding criteria id ↔ tables.Meets folding other id := by
  have hrow : ∀ entry another : Entry, entry.SameGlobs another →
      ((tables.HasRow id fun property => property.Matches folding entry) ↔
        tables.HasRow id fun property => property.Matches folding another) := by
    intro entry another hglobs
    simp only [PropertyRecord.matches_iff_of_sameGlobs hglobs]
  rw [meets_iff, meets_iff, h.forall_properties_iff hrow]
  simp only [h.exactTags.mem_iff, h.tagPatterns]

theorem resolves_iff_of_rearranges (h : criteria.Rearranges other) (id : ChannelId) :
    tables.Resolves folding criteria id ↔ tables.Resolves folding other id :=
  and_congr (h.foldedNames_perm folding).nodup_iff (meets_iff_of_rearranges h id)

theorem wants_iff_of_rearranges (h : criteria.Rearranges other) (channel : ChannelRecord) :
    tables.Wants folding criteria channel ↔ tables.Wants folding other channel := by
  have hnames : criteria.names = [] ↔ other.names = [] := by
    simp only [List.eq_nil_iff_forall_not_mem, h.names]
  simp only [Wants, h.hasIdCriteria_eq, resolves_iff_of_rearranges h, Ne, hnames, h.names]

/-- Rearranged criteria have the same outcome. -/
theorem Answers.eq_of_rearranges {outcome result : Outcome} (h : criteria.Rearranges other)
    (houtcome : tables.Answers folding criteria outcome)
    (hresult : tables.Answers folding other result) : outcome = result :=
  houtcome.eq_of_iff hresult h.hasIdCriteria_eq (resolves_iff_of_rearranges h)
    (wants_iff_of_rearranges h)

end Tables

/-- Rearranged criteria have the same patterns, so it remains to see that their statements are not
too large. -/
theorem WithinLimits.rearranged {folding : Folding} {criteria other : Criteria}
    (hlimits : WithinLimits folding criteria) (h : criteria.Rearranges other)
    (hexpression : ∀ query ∈ other.propertyMatch?, Limits.readIdQuery query = .ok ())
    (hlisting : other.names.length ≤ Limits.maxNames other.hasIdCriteria) :
    WithinLimits folding other where
  values := by
    refine (h.forall_properties_iff fun entry another hglobs => ?_).1 hlimits.values
    simp only [hglobs.values]
  tagPatterns := fun glob hglob => hlimits.tagPatterns glob ((h.tagPatterns glob).2 hglob)
  expression := hexpression
  names := fun glob hglob => hlimits.names glob ((h.names glob).2 hglob)
  listing := hlisting

namespace State

/-- **The order of criteria does not decide what is found.**  On every store that a session makes of
an empty catalog, and whose cells hold texts or nothing, a search within the limits and the search for
rearranged criteria have the same outcome, provided that the rearranged statements are not too large;
and searches for rearranged criteria that both succeed have the same outcome in any case. -/
theorem search_rearranged {start : State} (hstart : start = .catalog ∨ start = .plain)
    (steps : List Step) {state : State} (hstate : steps.foldl State.after start = state)
    (htextual : ∀ tables, state.tables = some tables → tables.IsTextual)
    {criteria other : Criteria} (h : criteria.Rearranges other) :
    (WithinLimits state.folding criteria →
      (∀ query ∈ other.propertyMatch?, Limits.readIdQuery query = .ok ()) →
      other.names.length ≤ Limits.maxNames other.hasIdCriteria →
      ∃ outcome, state.search criteria = .ok outcome ∧ state.search other = .ok outcome) ∧
    ∀ outcome result, state.search criteria = .ok outcome → state.search other = .ok result →
      outcome = result := by
  obtain ⟨⟨tables, htables, hvalid⟩, -⟩ := keeps_valid hstart steps
  rw [hstate] at htables
  have htextual := htextual tables htables
  have hsame : ∀ outcome result, state.search criteria = .ok outcome →
      state.search other = .ok result → outcome = result := fun outcome result hfirst hsecond =>
    (answers_of_search htables hvalid htextual hfirst).eq_of_rearranges h
      (answers_of_search htables hvalid htextual hsecond)
  refine ⟨fun hlimits hexpression hlisting => ?_, hsame⟩
  obtain ⟨outcome, houtcome⟩ := exists_search htables hvalid htextual hlimits
  obtain ⟨result, hresult⟩ :=
    exists_search htables hvalid htextual (hlimits.rearranged h hexpression hlisting)
  rw [← hsame outcome result houtcome hresult] at hresult
  exact ⟨outcome, houtcome, hresult⟩

/-- A channel that is to be found by two properties and a tag. -/
def crating : List Step :=
  [.insertChannel none (.text "crate") (.text "me"),
    .insertProperty (some ⟨1⟩) (.text "size") (.text "12") .null,
    .insertProperty (some ⟨1⟩) (.text "color") (.text "red") .null,
    .insertProperty (some ⟨1⟩) (.text "New") .null (.text "you")]

/-- The tables that the session leaves. -/
def crated : Tables :=
  ⟨.reference, [⟨⟨1⟩, .text "crate", .text "me"⟩],
    [⟨some ⟨1⟩, .text "size", .text "12", .null⟩, ⟨some ⟨1⟩, .text "color", .text "red", .null⟩,
      ⟨some ⟨1⟩, .text "New", .null, .text "you"⟩], 1⟩

theorem foldl_after_crating :
    crating.foldl State.after .catalog = ⟨some crated, .unicode, none⟩ := by
  decide

theorem valid_crated : crated.Valid :=
  valid_of_foldl_after (Or.inl rfl) crating foldl_after_crating rfl

theorem isTextual_crated : crated.IsTextual :=
  ⟨by decide, by decide⟩

/-- What is asked of the crate. -/
def crateWanted : Criteria where
  names := ["a*", "c*"]
  tagPatterns := ["N*", "*w"]
  properties := [⟨"size", ["1*", "2*"]⟩, ⟨"Color", []⟩]

/-- The same in another order, and with repetitions. -/
def crateWantedAgain : Criteria where
  names := ["c*", "a*", "c*"]
  tagPatterns := ["*w", "N*", "*w"]
  properties := [⟨"Color", []⟩, ⟨"size", ["2*", "2*", "1*"]⟩]

theorem rearranges_crateWanted : crateWanted.Rearranges crateWantedAgain where
  names glob := by
    simp only [crateWanted, crateWantedAgain, List.mem_cons, List.not_mem_nil, or_false]
    tauto
  exactTags := .nil
  tagPatterns glob := by
    simp only [crateWanted, crateWantedAgain, List.mem_cons, List.not_mem_nil, or_false]
    tauto
  properties :=
    ⟨[⟨"Color", []⟩, ⟨"size", ["1*", "2*"]⟩], .swap _ _ _,
      .cons ⟨rfl, fun _ => Iff.rfl⟩
        (.cons ⟨rfl, fun glob => by simp only [List.mem_cons, List.not_mem_nil, or_false]; tauto⟩
          .nil)⟩

theorem search_rearranged_crated :
    crateWanted.Rearranges crateWantedAgain ∧
      ∃ outcome, outcome ≠ .empty ∧
        (crating.foldl State.after .catalog).search crateWanted = .ok outcome ∧
        (crating.foldl State.after .catalog).search crateWantedAgain = .ok outcome := by
  rw [foldl_after_crating]
  obtain ⟨hsame, -⟩ := search_rearranged (Or.inl rfl) crating foldl_after_crating
    (fun _ htables => Option.some.inj htables ▸ isTextual_crated) rearranges_crateWanted
  obtain ⟨outcome, houtcome, hagain⟩ :=
    hsame ⟨⟨by decide, by decide, by decide⟩, by decide, by decide⟩ (by decide) (by decide)
  have hresolves : crated.Resolves .unicode crateWanted ⟨1⟩ := by decide
  have hanswers := answers_of_search rfl valid_crated isTextual_crated houtcome
  exact ⟨rearranges_crateWanted, outcome,
    fun hempty => (hanswers.empty_iff.1 hempty).2 ⟨1⟩ hresolves, houtcome, hagain⟩

/-! ## Where the order matters -/

/-- A tag pattern that is too long fails where it is compared with the name of a property. -/
theorem search_of_isTooLong_first {glob : String} (rest : List String)
    (hlong : Like.isTooLong (lowercase (Glob.toLike glob)) = true) :
    (crating.foldl State.after .catalog).search { tagPatterns := glob :: rest } =
      .error ⟨.tagMatch, .patternTooLong⟩ := by
  rw [foldl_after_crating]
  have hfails : State.fetchIds ⟨some crated, .unicode, none⟩ (.ofTagPattern glob) =
      .error .patternTooLong := by
    have hread : Limits.readIdQuery (.ofTagPattern glob) = .ok () := rfl
    rw [fetchIds, hread]
    simp [tablesFor, Tables.fetchIds, IdQuery.ofTagPattern, crated, select, TextCell.isLike,
      PropertyRecord.isTagLike, Folding.lower, hlong, bind, Except.bind]
  have hqueries : Criteria.idQueries { tagPatterns := glob :: rest } =
      .ofTagPattern glob :: rest.map .ofTagPattern := rfl
  simp only [search, Criteria.search, Criteria.resolve, hqueries, resolveFrom, executor, hfails,
    bind, pure]
  rfl

/-- If another pattern leaves no channel before, a tag pattern is not compared, whatever it is. -/
theorem search_of_none_left (rest : List String) :
    (crating.foldl State.after .catalog).search { tagPatterns := "zzz*" :: rest } = .ok .empty := by
  rw [foldl_after_crating]
  have hnone : State.fetchIds ⟨some crated, .unicode, none⟩ (.ofTagPattern "zzz*") = .ok [] := by
    decide
  have hqueries : Criteria.idQueries { tagPatterns := "zzz*" :: rest } =
      .ofTagPattern "zzz*" :: rest.map .ofTagPattern := rfl
  simp only [search, Criteria.search, Criteria.resolve, hqueries, resolveFrom, executor, hnone,
    bind, pure]
  rfl

/-- Globs for names that are too many make the listing fail. -/
theorem search_ne_ok_of_maxNames_lt {state : State} {tables : Tables}
    (htables : state.tables = some tables) {names : List String}
    (hmany : Limits.maxNames false < names.length) (outcome : Outcome) :
    state.search { names } ≠ .ok outcome := by
  intro h
  rcases Criteria.search_eq_ok_iff.1 h with ⟨hresolve, -⟩ | ⟨ids, rows, hresolve, hrows, -⟩
  · exact absurd (not_resolves_of_noMatch htables hresolve).1 (by simp [Criteria.hasIdCriteria,
      Criteria.requiresPropertyMatch])
  · have hids : ids.isSome = false := (restricts_of_resolve htables hresolve).isSome_eq
    have hcount := ((fetchRows_eq_ok_iff htables).1 hrows).1
    simp only [RowQuery.ofNames, List.length_map, hids] at hcount
    omega

/-- Another order meets a limit that the first does not, and so does a glob that is repeated. -/
theorem search_reordered_overlong :
    (Criteria.Rearranges { tagPatterns := ["zzz*", Glob.overlong] }
        { tagPatterns := [Glob.overlong, "zzz*"] } ∧
      (crating.foldl State.after .catalog).search { tagPatterns := ["zzz*", Glob.overlong] } =
        .ok .empty ∧
      (crating.foldl State.after .catalog).search { tagPatterns := [Glob.overlong, "zzz*"] } =
        .error ⟨.tagMatch, .patternTooLong⟩) ∧
    Criteria.Rearranges { names := ["*"] } { names := List.replicate 998 "*" } ∧
      (∃ outcome, (crating.foldl State.after .catalog).search { names := ["*"] } = .ok outcome) ∧
      ∀ outcome, (crating.foldl State.after .catalog).search
        { names := List.replicate 998 "*" } ≠ .ok outcome := by
  have hfails := search_of_isTooLong_first ["zzz*"] Glob.isTooLong_lowercase_overlong
  refine ⟨⟨⟨fun _ => Iff.rfl, .nil, fun glob => ?_, [], .nil, .nil⟩,
      search_of_none_left [Glob.overlong], hfails⟩,
    ⟨fun glob => ?_, .nil, fun _ => Iff.rfl, [], .nil, .nil⟩, ?_, ?_⟩
  · simp only [List.mem_cons, List.not_mem_nil, or_false]
    exact or_comm
  · rw [List.mem_singleton, List.mem_replicate]
    exact ⟨fun hglob => ⟨by decide, hglob⟩, And.right⟩
  · rw [foldl_after_crating]
    exact exists_search rfl valid_crated isTextual_crated
      ⟨⟨by decide, by decide, by decide⟩, by decide, by decide⟩
  · rw [foldl_after_crating]
    refine search_ne_ok_of_maxNames_lt rfl ?_
    rw [List.length_replicate]
    decide

end State
end Store
end ChannelCatalog
