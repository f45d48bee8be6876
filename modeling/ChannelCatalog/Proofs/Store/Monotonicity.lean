import ChannelCatalog.Proofs.Store.Rearranging

/-!
# More criteria and more alternatives

Each property, tag and tag pattern of the criteria has to be met, so another one leaves fewer rows.
Of several globs for one name or value any one may match, so another one leaves more rows.  Rows that
are left keep their order.  That the query for properties and tags counts names does not break this: a
new key makes more properties pass, but it also raises the count, and if it folds to the same text as
another key the count is not reached at all.

A first glob is no alternative.  It turns a listing of all channels, or a key that asks for any value,
into a restriction.
-/

namespace ChannelCatalog

open Store (Folding Step)

/-! ## Added criteria and alternatives -/

/-- The key has more globs, of which there were some, or it has none as before. -/
structure Entry.Loosens (entry looser : Entry) : Prop where
  key : entry.key = looser.key
  values : entry.values.Sublist looser.values
  none : entry.values = [] → looser.values = []

theorem Entry.Loosens.refl (entry : Entry) : entry.Loosens entry :=
  ⟨rfl, .refl _, id⟩

theorem Entry.Loosens.values_eq_nil_iff {entry looser : Entry} (h : entry.Loosens looser) :
    looser.values = [] ↔ entry.values = [] :=
  ⟨fun hnone => List.sublist_nil.1 (hnone ▸ h.values), h.none⟩

namespace Criteria

/-- Properties, exact tags and tag patterns are added anywhere among those that there are. -/
structure Tightens (criteria tighter : Criteria) : Prop where
  names : criteria.names = tighter.names
  exactTags : criteria.exactTags.Sublist tighter.exactTags
  tagPatterns : criteria.tagPatterns.Sublist tighter.tagPatterns
  properties : criteria.properties.Sublist tighter.properties

/-- Globs for names, of which there were some, and globs for keys that had some are added anywhere
among those that there are. -/
structure Loosens (criteria looser : Criteria) : Prop where
  names : criteria.names.Sublist looser.names
  noNames : criteria.names = [] → looser.names = []
  exactTags : criteria.exactTags = looser.exactTags
  tagPatterns : criteria.tagPatterns = looser.tagPatterns
  properties : List.Forall₂ Entry.Loosens criteria.properties looser.properties

variable {criteria tighter looser : Criteria}

theorem Tightens.foldedNames_sublist (h : criteria.Tightens tighter) (folding : Folding) :
    (criteria.foldedNames folding).Sublist (tighter.foldedNames folding) :=
  ((h.properties.map Entry.key).append h.exactTags).map folding.lower

theorem Tightens.hasIdCriteria (h : criteria.Tightens tighter)
    (hcriteria : criteria.hasIdCriteria = true) : tighter.hasIdCriteria = true := by
  rw [hasIdCriteria_iff, Ne, idQueries_eq_nil_iff] at hcriteria ⊢
  rintro ⟨hproperties, hexact, hpatterns⟩
  refine hcriteria ⟨?_, ?_, ?_⟩
  · exact List.sublist_nil.1 (hproperties ▸ h.properties)
  · exact List.sublist_nil.1 (hexact ▸ h.exactTags)
  · exact List.sublist_nil.1 (hpatterns ▸ h.tagPatterns)

/-- The same names are counted. -/
theorem Loosens.foldedNames_eq (h : criteria.Loosens looser) (folding : Folding) :
    criteria.foldedNames folding = looser.foldedNames folding := by
  rw [foldedNames, foldedNames, h.exactTags,
    Entry.map_key_eq_of_forall₂ h.properties fun _ _ => Entry.Loosens.key]

theorem Loosens.hasIdCriteria_eq (h : criteria.Loosens looser) :
    criteria.hasIdCriteria = looser.hasIdCriteria := by
  have hproperties : criteria.properties = [] ↔ looser.properties = [] := by
    rw [← List.length_eq_zero_iff, h.properties.length_eq, List.length_eq_zero_iff]
  rw [Bool.eq_iff_iff, hasIdCriteria_iff, hasIdCriteria_iff, Ne, Ne, idQueries_eq_nil_iff,
    idQueries_eq_nil_iff, hproperties, h.exactTags, h.tagPatterns]

end Criteria

/-! ## What is found -/

namespace Store

theorem PropertyRecord.Matches.loosened {folding : Folding} {property : PropertyRecord}
    {entry looser : Entry} (h : entry.Loosens looser) (hmatches : property.Matches folding entry) :
    property.Matches folding looser := by
  obtain ⟨hnamed, hvalue⟩ := hmatches
  refine ⟨h.key ▸ hnamed, ?_⟩
  by_cases hnone : entry.values = []
  · rw [if_pos hnone] at hvalue
    rwa [if_pos (h.none hnone)]
  · rw [if_neg hnone] at hvalue
    rw [if_neg (mt h.values_eq_nil_iff.1 hnone)]
    obtain ⟨glob, hglob, hlikes⟩ := hvalue
    exact ⟨glob, h.values.mem hglob, hlikes⟩

namespace Tables

variable {tables : Tables} {folding : Folding} {criteria tighter looser : Criteria}

/-- What meets more criteria meets fewer. -/
theorem Meets.of_tightens {id : ChannelId} (h : criteria.Tightens tighter)
    (hmeets : tables.Meets folding tighter id) : tables.Meets folding criteria id where
  properties := fun entry hentry => hmeets.properties entry (h.properties.mem hentry)
  exactTags := fun tag htag => hmeets.exactTags tag (h.exactTags.mem htag)
  tagPatterns := fun glob hglob => hmeets.tagPatterns glob (h.tagPatterns.mem hglob)

/-- Criteria that are met are still met with more alternatives. -/
theorem Meets.loosened {id : ChannelId} (h : criteria.Loosens looser)
    (hmeets : tables.Meets folding criteria id) : tables.Meets folding looser id where
  properties := by
    refine Entry.forall_mem_of_forall₂ h.properties (fun entry other hloosens hrow => ?_)
      hmeets.properties
    obtain ⟨property, hmem, hchannel, hmatches⟩ := hrow
    exact ⟨property, hmem, hchannel, hmatches.loosened hloosens⟩
  exactTags := h.exactTags ▸ hmeets.exactTags
  tagPatterns := h.tagPatterns ▸ hmeets.tagPatterns

theorem Wants.of_tightens {channel : ChannelRecord} (h : criteria.Tightens tighter)
    (hwants : tables.Wants folding tighter channel) : tables.Wants folding criteria channel := by
  refine ⟨fun hcriteria => ?_, h.names ▸ hwants.2⟩
  obtain ⟨hdistinct, hmeets⟩ := hwants.1 (h.hasIdCriteria hcriteria)
  exact ⟨hdistinct.sublist (h.foldedNames_sublist folding), hmeets.of_tightens h⟩

theorem Wants.loosened {channel : ChannelRecord} (h : criteria.Loosens looser)
    (hwants : tables.Wants folding criteria channel) : tables.Wants folding looser channel := by
  constructor
  · intro hcriteria
    obtain ⟨hdistinct, hmeets⟩ := hwants.1 (h.hasIdCriteria_eq.trans hcriteria)
    exact ⟨h.foldedNames_eq folding ▸ hdistinct, hmeets.loosened h⟩
  · intro hnames
    obtain ⟨glob, hglob, hlikes⟩ := hwants.2 (mt h.noNames hnames)
    exact ⟨glob, h.names.mem hglob, hlikes⟩

end Tables

namespace State

/-- **More criteria leave fewer rows, and more alternatives leave more.**  On every store that a session
makes of an empty catalog, and whose cells hold texts or nothing, each search within the limits
succeeds.  Of two searches that succeed, the one with more properties, exact tags and tag patterns has
some of the rows of the other, in their order; and so has the one with fewer globs for names and for the
keys that have any. -/
theorem search_monotone {start : State} (hstart : start = .catalog ∨ start = .plain)
    (steps : List Step) {state : State} (hstate : steps.foldl State.after start = state)
    (htextual : ∀ tables, state.tables = some tables → tables.IsTextual) (criteria : Criteria) :
    (∀ asked, WithinLimits state.folding asked → ∃ outcome, state.search asked = .ok outcome) ∧
    ∀ outcome, state.search criteria = .ok outcome →
      (∀ tighter, criteria.Tightens tighter → ∀ result, state.search tighter = .ok result →
        result.toRows.Sublist outcome.toRows) ∧
      ∀ looser, criteria.Loosens looser → ∀ result, state.search looser = .ok result →
        outcome.toRows.Sublist result.toRows := by
  obtain ⟨⟨tables, htables, hvalid⟩, -⟩ := keeps_valid hstart steps
  rw [hstate] at htables
  have htextual := htextual tables htables
  have hanswers : ∀ {asked : Criteria} {outcome : Outcome}, state.search asked = .ok outcome →
      tables.Lists (tables.Wants state.folding asked) outcome.toRows := fun h =>
    (answers_of_search htables hvalid htextual h).lists_toRows
  refine ⟨fun asked hlimits => exists_search htables hvalid htextual hlimits,
    fun outcome houtcome => ⟨fun tighter h result hresult => ?_, fun looser h result hresult => ?_⟩⟩
  · exact (hanswers hresult).sublist (hanswers houtcome) fun channel => Tables.Wants.of_tightens h
  · exact (hanswers houtcome).sublist (hanswers hresult) fun channel => Tables.Wants.loosened h

/-- What is asked of the crate, and that it is new. -/
def newCrateWanted : Criteria :=
  { crateWanted with exactTags := ["NEW"] }

/-- What is asked of the crate, with another glob for names and another one for sizes. -/
def crateOrBoxWanted : Criteria :=
  { crateWanted with
    names := ["a*", "b*", "c*"]
    properties := [⟨"size", ["1*", "2*", "small"]⟩, ⟨"Color", []⟩] }

theorem search_monotone_crated :
    crateWanted.Tightens newCrateWanted ∧ crateWanted.Loosens crateOrBoxWanted ∧
      ∃ few some many, (crating.foldl State.after .catalog).search newCrateWanted = .ok few ∧
        (crating.foldl State.after .catalog).search crateWanted = .ok some ∧
        (crating.foldl State.after .catalog).search crateOrBoxWanted = .ok many ∧
        few.toRows ≠ [] ∧ few.toRows.Sublist some.toRows ∧ some.toRows.Sublist many.toRows := by
  have htightens : crateWanted.Tightens newCrateWanted :=
    ⟨rfl, List.nil_sublist _, .refl _, .refl _⟩
  have hloosens : crateWanted.Loosens crateOrBoxWanted :=
    ⟨by decide, by decide, rfl, rfl,
      .cons ⟨rfl, by decide, by decide⟩ (.cons (.refl _) .nil)⟩
  obtain ⟨hsucceeds, hmonotone⟩ := search_monotone (Or.inl rfl) crating foldl_after_crating
    (fun _ htables => Option.some.inj htables ▸ isTextual_crated) crateWanted
  obtain ⟨few, hfew⟩ := hsucceeds newCrateWanted
    ⟨⟨by decide, by decide, by decide⟩, by decide, by decide⟩
  obtain ⟨some, hsome⟩ := hsucceeds crateWanted
    ⟨⟨by decide, by decide, by decide⟩, by decide, by decide⟩
  obtain ⟨many, hmany⟩ := hsucceeds crateOrBoxWanted
    ⟨⟨by decide, by decide, by decide⟩, by decide, by decide⟩
  obtain ⟨htighter, hlooser⟩ := hmonotone some hsome
  have hfound : few.toRows ≠ [] :=
    (answers_of_search rfl valid_crated isTextual_crated hfew).lists_toRows.ne_nil
      (List.mem_singleton_self _) ⟨fun _ => by decide, fun _ => by decide⟩
  rw [foldl_after_crating]
  exact ⟨htightens, hloosens, few, some, many, hfew, hsome, hmany, hfound,
    htighter newCrateWanted htightens few hfew, hlooser crateOrBoxWanted hloosens many hmany⟩

/-- Any name, asked for again and again. -/
def anyName (count : Nat) : Criteria :=
  { names := List.replicate count "*" }

theorem loosens_anyName {count more : Nat} (hcount : count ≠ 0) (hle : count ≤ more) :
    (anyName count).Loosens (anyName more) where
  names := List.replicate_sublist_iff.2 (by simpa [anyName] using hle)
  noNames := fun hnone => absurd (List.replicate_eq_nil_iff _ |>.1 hnone) hcount
  exactTags := rfl
  tagPatterns := rfl
  properties := .nil

theorem withinLimits_anyName {count : Nat} (hcount : count ≤ Limits.maxNames false) :
    WithinLimits .unicode (anyName count) where
  values := by simp [anyName]
  tagPatterns := by simp [anyName]
  expression := by simp [anyName, Criteria.propertyMatch?, Criteria.requiresPropertyMatch]
  names := by
    intro glob hglob
    rw [List.eq_of_mem_replicate hglob]
    decide
  listing := by
    rw [anyName, List.length_replicate]
    exact hcount

/-- Another criterion may meet a limit that the others do not, and so may another alternative: then
there are no rows to compare. -/
theorem search_beyond_limits :
    (Criteria.Tightens { tagPatterns := ["zzz*"] } { tagPatterns := [Glob.overlong, "zzz*"] } ∧
      (crating.foldl State.after .catalog).search { tagPatterns := ["zzz*"] } = .ok .empty ∧
      (crating.foldl State.after .catalog).search { tagPatterns := [Glob.overlong, "zzz*"] } =
        .error ⟨.tagMatch, .patternTooLong⟩) ∧
    (anyName 997).Loosens (anyName 998) ∧
      (∃ outcome, (crating.foldl State.after .catalog).search (anyName 997) = .ok outcome ∧
        outcome.toRows ≠ []) ∧
      ∀ outcome, (crating.foldl State.after .catalog).search (anyName 998) ≠ .ok outcome := by
  have hfails := search_of_isTooLong_first ["zzz*"] Glob.isTooLong_lowercase_overlong
  refine ⟨⟨⟨rfl, .refl _, List.sublist_cons_self _ _, .refl _⟩, search_of_none_left [], hfails⟩,
    loosens_anyName (by decide) (by decide), ?_, ?_⟩
  · obtain ⟨outcome, houtcome⟩ :
        ∃ outcome, State.search ⟨some crated, .unicode, none⟩ (anyName 997) = .ok outcome :=
      exists_search rfl valid_crated isTextual_crated (withinLimits_anyName (by decide))
    rw [foldl_after_crating]
    refine ⟨outcome, houtcome, ?_⟩
    refine (answers_of_search rfl valid_crated isTextual_crated houtcome).lists_toRows.ne_nil
      (List.mem_singleton_self _) ⟨fun _ => by decide, fun _ => ⟨"*", ?_, by decide⟩⟩
    exact List.mem_replicate.2 ⟨by decide, rfl⟩
  · rw [foldl_after_crating]
    refine search_ne_ok_of_maxNames_lt rfl ?_
    rw [List.length_replicate]
    decide

end State
end Store
end ChannelCatalog
