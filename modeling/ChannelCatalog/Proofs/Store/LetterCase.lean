import ChannelCatalog.Proofs.Criteria.LetterCase
import ChannelCatalog.Proofs.Like.Replacing
import ChannelCatalog.Proofs.Store.Searching

/-!
# Searching in other letter case

A query is folded when its texts are put in lower case as far as the store compares them.  The limits
of the store look at the form of a query only, and each test has the same result before and after.  So
a folded query has the same answer, or fails with the same error, on every store; and a search does
not see how its criteria are spelled.
-/

namespace ChannelCatalog

open Text (asciiLower lowercase)
open Store (Folding State StoreError)

/-! ## Folded queries -/

/-- The clause in lower case as far as a store compares it. -/
def Clause.folded (folding : Folding) : Clause → Clause
  | .property key patterns => .property (folding.lower key) (patterns.map asciiLower)
  | .tag name => .tag (folding.lower name)

/-- The query in lower case as far as a store compares it. -/
def IdQuery.folded (folding : Folding) : IdQuery → IdQuery
  | .counted clauses required => .counted (clauses.map (Clause.folded folding)) required
  | .tagLike pattern => .tagLike (folding.lower pattern)

/-- The query in lower case. -/
def RowQuery.lowered (query : RowQuery) : RowQuery :=
  { query with names := query.names.map asciiLower }

theorem IdQuery.stage_folded (folding : Folding) (query : IdQuery) :
    (query.folded folding).stage = query.stage := by
  cases query <;> rfl

theorem IdQuery.ofTagPattern_lower (folding : Folding) (glob : String) :
    ofTagPattern (folding.lower glob) = (ofTagPattern glob).folded folding := by
  rw [ofTagPattern, ← folding.lower_toLike, folding.asciiLower_lower, ofTagPattern, folded,
    folding.lower_asciiLower]

namespace Criteria

variable {folding : Folding} (criteria : Criteria)

theorem clauses_folded :
    (criteria.folded folding).clauses = criteria.clauses.map (Clause.folded folding) := by
  have hproperty : ∀ entry : Entry,
      Clause.ofProperty (entry.mapTexts folding.lower asciiLower) =
        (Clause.ofProperty entry).folded folding := fun entry =>
    congrArg (Clause.property _) (Glob.map_toLike_map_asciiLower entry.values)
  simp [clauses, folded, hproperty, Function.comp_def, Clause.folded]

/-- Folded criteria ask the folded queries. -/
theorem idQueries_folded :
    (criteria.folded folding).idQueries = criteria.idQueries.map (IdQuery.folded folding) := by
  have hrequires : (criteria.folded folding).requiresPropertyMatch =
      criteria.requiresPropertyMatch := by
    simp [requiresPropertyMatch, folded]
  have hrequired : (criteria.folded folding).requiredMatches = criteria.requiredMatches := by
    simp [requiredMatches, folded]
  have hpatterns : (criteria.folded folding).tagPatterns.map IdQuery.ofTagPattern =
      (criteria.tagPatterns.map IdQuery.ofTagPattern).map (IdQuery.folded folding) := by
    simp [folded, Function.comp_def, IdQuery.ofTagPattern_lower]
  rw [idQueries, propertyMatch?, hrequires, hrequired, clauses_folded, hpatterns, idQueries,
    propertyMatch?, List.map_append]
  split <;> rfl

theorem ofNames_folded (ids : Option IdSet) :
    RowQuery.ofNames (criteria.folded folding).names ids =
      (RowQuery.ofNames criteria.names ids).lowered :=
  congrArg (RowQuery.mk ids) (Glob.map_toLike_map_asciiLower criteria.names)

end Criteria

namespace Store

/-! ## Limits -/

namespace Limits

theorem readLikes_map (f : String → String) (read : Extent) (patterns : List String) :
    readLikes read (patterns.map f) = readLikes read patterns := by
  induction patterns generalizing read with
  | nil => rfl
  | cons pattern rest ih => simp only [List.map_cons, readLikes, ih]

theorem readPatterns_map (f : String → String) (slots other : Nat) (patterns : List String) :
    readPatterns slots other (patterns.map f) = readPatterns slots other patterns := by
  cases patterns with
  | nil => rfl
  | cons pattern rest => simp only [List.map_cons, readPatterns, readLikes_map]

variable {folding : Folding}

theorem readClause_folded (slots : Nat) (clause : Clause) :
    readClause slots (clause.folded folding) = readClause slots clause := by
  cases clause with
  | property key patterns => simp only [Clause.folded, readClause, readPatterns_map]
  | tag name => rfl

theorem readClauses_folded (read : Extent) (clauses : List Clause) :
    readClauses read (clauses.map (Clause.folded folding)) = readClauses read clauses := by
  induction clauses generalizing read with
  | nil => rfl
  | cons clause rest ih => simp only [List.map_cons, readClauses, readClause_folded, ih]

theorem readIdQuery_folded (query : IdQuery) :
    readIdQuery (query.folded folding) = readIdQuery query := by
  cases query with
  | counted clauses required =>
      cases clauses with
      | nil => rfl
      | cons clause rest =>
          simp only [IdQuery.folded, List.map_cons, readIdQuery, readClause_folded,
            readClauses_folded]
  | tagLike pattern => rfl

theorem readRowQuery_lowered (query : RowQuery) :
    readRowQuery query.lowered = readRowQuery query := by
  obtain ⟨ids, names⟩ := query
  simp only [RowQuery.lowered, readRowQuery, readPatterns_map]
  cases ids <;> cases names <;> rfl

end Limits

/-! ## Tests -/

theorem TextCell.isLike_asciiLower (cell : TextCell) (pattern : String) :
    cell.isLike (asciiLower pattern) = cell.isLike pattern := by
  have hholds : Like.holdsFor (asciiLower pattern) = Like.holdsFor pattern :=
    funext (Like.holdsFor_asciiLower pattern)
  rw [isLike, Like.isTooLong_asciiLower, hholds, isLike]

theorem TextCell.isLikeAny_map_asciiLower (cell : TextCell) (patterns : List String) :
    cell.isLikeAny (patterns.map asciiLower) = cell.isLikeAny patterns := by
  induction patterns with
  | nil => rfl
  | cons pattern rest ih => simp only [List.map_cons, isLikeAny, isLike_asciiLower, ih]

variable {folding : Folding}

theorem PropertyRecord.passes_folded (property : PropertyRecord) (clause : Clause) :
    property.passes folding (clause.folded folding) = property.passes folding clause := by
  cases clause with
  | property key patterns =>
      simp only [Clause.folded, passes, folding.lower_lower, List.isEmpty_map,
        TextCell.isLikeAny_map_asciiLower]
  | tag name => simp only [Clause.folded, passes, folding.lower_lower]

theorem PropertyRecord.passesAny_folded (property : PropertyRecord) (clauses : List Clause) :
    property.passesAny folding (clauses.map (Clause.folded folding)) =
      property.passesAny folding clauses := by
  induction clauses with
  | nil => rfl
  | cons clause rest ih => simp only [List.map_cons, passesAny, passes_folded, ih]

theorem Tables.fetchIds_folded (tables : Tables) (query : IdQuery) :
    tables.fetchIds folding (query.folded folding) = tables.fetchIds folding query := by
  cases query with
  | counted clauses required =>
      simp only [IdQuery.folded, Tables.fetchIds, PropertyRecord.passesAny_folded]
  | tagLike pattern =>
      simp only [IdQuery.folded, Tables.fetchIds, PropertyRecord.isTagLike, folding.lower_lower]

theorem ChannelRecord.isListed_lowered (channel : ChannelRecord) (query : RowQuery) :
    channel.isListed query.lowered = channel.isListed query := by
  simp only [RowQuery.lowered, isListed, List.isEmpty_map, TextCell.isLikeAny_map_asciiLower]

theorem Tables.fetchRows_lowered (tables : Tables) (query : RowQuery) :
    tables.fetchRows query.lowered = tables.fetchRows query := by
  have hproperties : tables.propertiesFor query.lowered = tables.propertiesFor query := rfl
  simp only [Tables.fetchRows, ChannelRecord.isListed_lowered, hproperties]

/-! ## Searches -/

namespace State

variable (state : State)

/-- A folded query for identifiers has the same answer, or fails with the same error. -/
theorem fetchIds_folded (query : IdQuery) :
    state.fetchIds (query.folded state.folding) = state.fetchIds query := by
  simp only [fetchIds, Limits.readIdQuery_folded, Tables.fetchIds_folded]

theorem fetchRows_lowered (query : RowQuery) :
    state.fetchRows query.lowered = state.fetchRows query := by
  have hjoin : Limits.readJoin query.lowered = Limits.readJoin query := rfl
  simp only [fetchRows, Limits.readRowQuery_lowered, hjoin, Tables.fetchRows_lowered]

theorem resolveFrom_folded (running : Option IdSet) (queries : List IdQuery) :
    resolveFrom state.executor running (queries.map (IdQuery.folded state.folding)) =
      resolveFrom state.executor running queries := by
  have hfetch : ∀ query : IdQuery,
      state.executor.fetchIds (query.folded state.folding) = state.executor.fetchIds query :=
    state.fetchIds_folded
  induction queries generalizing running with
  | nil => rfl
  | cons query rest ih =>
      simp only [List.map_cons, resolveFrom, hfetch, IdQuery.stage_folded, ih]

theorem list_folded (criteria : Criteria) (ids : Option IdSet) :
    (criteria.folded state.folding).list state.executor ids =
      criteria.list state.executor ids := by
  have hfetch : state.executor.fetchRows
        (RowQuery.ofNames (criteria.folded state.folding).names ids) =
      state.executor.fetchRows (RowQuery.ofNames criteria.names ids) := by
    rw [Criteria.ofNames_folded]
    exact state.fetchRows_lowered _
  simp only [Criteria.list, hfetch]

/-- **A search does not see the letter case of its criteria.** -/
theorem search_folded (criteria : Criteria) :
    state.search (criteria.folded state.folding) = state.search criteria := by
  have hresolve : (criteria.folded state.folding).resolve state.executor =
      criteria.resolve state.executor := by
    rw [Criteria.resolve, Criteria.idQueries_folded, resolveFrom_folded, Criteria.resolve]
  simp only [search, Criteria.search, hresolve, list_folded]

theorem search_ofRequest_folded (request : Request) :
    state.search (.ofRequest (request.folded state.folding)) = state.search (.ofRequest request) := by
  rw [Criteria.ofRequest_folded, search_folded]

/-- **ASCII case does not show in a search.**  On every store, whatever it holds and however it
folds, two requests that differ in the case of the letters `A` to `Z` only have the same outcome, or
fail with the same error. -/
theorem search_eq_of_asciiLowered_eq {request other : Request}
    (h : request.asciiLowered = other.asciiLowered) :
    state.search (.ofRequest request) = state.search (.ofRequest other) := by
  rw [← search_ofRequest_folded, ← request.folded_asciiLowered, h, other.folded_asciiLowered,
    search_ofRequest_folded]

/-- A session that makes a channel with a property and a tag. -/
def thermometer : List Step :=
  [.insertChannel none (.text "t1") (.text "lab"),
    .insertProperty (some ⟨1⟩) (.text "Kelvin") (.text "273") (.text "lab"),
    .insertProperty (some ⟨1⟩) (.text "Οδός") .null (.text "lab")]

/-- ASCII letters among escaped wildcards and letters beyond ASCII. -/
def someCapitals : Request :=
  ⟨[⟨"~Name", ["\\\\T?"]⟩, ⟨"kelvin", ["\\*%X"]⟩, ⟨"~TAG", ["ΟΔΌΣ*A"]⟩]⟩

/-- The same with ASCII letters in the other case. -/
def otherCapitals : Request :=
  ⟨[⟨"~nAME", ["\\\\t?"]⟩, ⟨"KELVIN", ["\\*%x"]⟩, ⟨"~tag", ["ΟΔΌΣ*a"]⟩]⟩

theorem search_asciiLowered_thermometer :
    someCapitals.asciiLowered = otherCapitals.asciiLowered ∧
      (thermometer.foldl State.after .loose).search (.ofRequest someCapitals) =
        (thermometer.foldl State.after .loose).search (.ofRequest otherCapitals) := by
  have hcase : someCapitals.asciiLowered = otherCapitals.asciiLowered := by decide +kernel
  exact ⟨hcase, search_eq_of_asciiLowered_eq _ hcase⟩

/-- **Letter case of keys and tags does not show in a search of a catalog.**  After any steps, two
requests whose entries are spelled alike have the same outcome, or fail with the same error. -/
theorem search_eq_of_spelledAlike (steps : List Step) {request other : Request}
    (h : List.Forall₂ Entry.SpelledAlike request.entries other.entries) :
    (steps.foldl State.after .catalog).search (.ofRequest request) =
      (steps.foldl State.after .catalog).search (.ofRequest other) := by
  have hfolding : (steps.foldl State.after .catalog).folding = .unicode :=
    folding_foldl_after rfl steps
  rw [← search_ofRequest_folded, hfolding, Request.folded_eq_of_spelledAlike h, ← hfolding,
    search_ofRequest_folded]

/-- The tables that the session leaves. -/
def measured : Tables :=
  ⟨.reference, [⟨⟨1⟩, .text "t1", .text "lab"⟩],
    [⟨some ⟨1⟩, .text "Kelvin", .text "273", .text "lab"⟩,
      ⟨some ⟨1⟩, .text "Οδός", .null, .text "lab"⟩], 1⟩

/-- The thermometer is asked for with a Kelvin sign, and with capital sigmas at the ends of words. -/
def inCapitals : Request :=
  ⟨[⟨"\u212AELVIN", ["2*"]⟩, ⟨"~Tag", ["ΟΔΌΣ", "ΟΔΌΣ*"]⟩]⟩

/-- The same with a `k`, and with final sigmas. -/
def inSmallLetters : Request :=
  ⟨[⟨"kelvin", ["2*"]⟩, ⟨"~TAG", ["οδός", "οδός*"]⟩]⟩

theorem search_spelledAlike_thermometer :
    List.Forall₂ Entry.SpelledAlike inCapitals.entries inSmallLetters.entries ∧
      ∃ outcome, outcome ≠ .empty ∧
        (thermometer.foldl State.after .catalog).search (.ofRequest inCapitals) = .ok outcome ∧
        (thermometer.foldl State.after .catalog).search (.ofRequest inSmallLetters) =
          .ok outcome := by
  have hstate : thermometer.foldl State.after .catalog = ⟨some measured, .unicode, none⟩ := by
    decide
  have halike : List.Forall₂ Entry.SpelledAlike inCapitals.entries inSmallLetters.entries :=
    .cons ⟨by decide +kernel, by decide, by decide⟩
      (.cons ⟨by decide, by decide +kernel, by decide⟩ .nil)
  have hvalid : measured.Valid := valid_of_foldl_after (Or.inl rfl) thermometer hstate rfl
  have htextual : measured.IsTextual := ⟨by decide, by decide⟩
  obtain ⟨outcome, houtcome⟩ : ∃ outcome,
      State.search ⟨some measured, .unicode, none⟩ (.ofRequest inCapitals) = .ok outcome :=
    exists_search rfl hvalid htextual
      ⟨⟨by decide +kernel, by decide +kernel, by decide +kernel⟩, by decide +kernel,
        by decide +kernel⟩
  have hresolves : measured.Resolves .unicode (.ofRequest inCapitals) ⟨1⟩ := by
    decide +kernel
  have hanswers := answers_of_search rfl hvalid htextual houtcome
  refine ⟨halike, outcome, fun hempty => (hanswers.empty_iff.1 hempty).2 ⟨1⟩ hresolves, ?_, ?_⟩
  · rw [hstate, houtcome]
  · rw [← search_eq_of_spelledAlike thermometer halike, hstate, houtcome]

end State
end Store
end ChannelCatalog
