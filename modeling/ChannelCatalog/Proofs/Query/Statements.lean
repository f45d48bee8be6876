import ChannelCatalog.Proofs.Sql.Blanks
import ChannelCatalog.Query

/-!
# The statements of a search

The text of a statement depends on how many keys, globs, tags, names and ids a search has, and on
nothing else of them.  Whatever they say, quotes, question marks and backslashes included, they reach
the store as the values of slots, and there are as many slots in the text as there are values.
-/

namespace ChannelCatalog

open Sql

/-- What can be told apart by `g` can be told apart by `f`; so lists that `f` makes equal are made
equal by `g`. -/
theorem map_eq_map_of_map_eq {α β γ : Type} {f : α → β} {g : α → γ}
    (hcoarser : ∀ a b, f a = f b → g a = g b) {xs ys : List α} (h : xs.map f = ys.map f) :
    xs.map g = ys.map g := by
  induction xs generalizing ys with
  | nil =>
      rw [List.map_nil, eq_comm, List.map_eq_nil_iff] at h
      rw [h]
  | cons x rest ih =>
      cases ys with
      | nil => cases h
      | cons y more =>
          obtain ⟨hfirst, hrest⟩ := List.cons.inj h
          rw [List.map_cons, List.map_cons, hcoarser x y hfirst, ih hrest]

theorem isEmpty_eq_of_length_eq {α β : Type} {xs : List α} {ys : List β}
    (h : xs.length = ys.length) : xs.isEmpty = ys.isEmpty := by
  rw [Bool.eq_iff_iff, List.isEmpty_iff_length_eq_zero, List.isEmpty_iff_length_eq_zero, h]

/-- Tests of a column against equally many patterns have one text. -/
theorem blank_pushLikes (dialect : Dialect) (column : String) {patterns others : List String}
    (h : patterns.length = others.length) :
    (Fragment.join (patterns.map (Fragment.empty.pushLike column)) " OR ").parenthesized.blank
        dialect =
      (Fragment.join (others.map (Fragment.empty.pushLike column)) " OR ").parenthesized.blank
        dialect := by
  simp [Function.comp_def, List.map_const', h]

theorem isPlain_pushLikes {column : String} (hcolumn : IsPlainText column)
    (patterns : List String) :
    (Fragment.join (patterns.map (Fragment.empty.pushLike column)) " OR ").parenthesized.IsPlain := by
  refine (Fragment.isPlain_join (fun fragment hfragment => ?_) (by decide)).parenthesized
  obtain ⟨pattern, -, rfl⟩ := List.mem_map.1 hfragment
  exact Fragment.isPlain_empty.pushLike hcolumn pattern

namespace Clause

/-- What shows of a clause: whether it is for a property, and then how many patterns it has. -/
def shape : Clause → Option Nat
  | .property _ patterns => some patterns.length
  | .tag _ => none

theorem blank_valueTest (dialect : Dialect) {patterns others : List String}
    (h : patterns.length = others.length) :
    (valueTest patterns).blank dialect = (valueTest others).blank dialect := by
  rw [valueTest, valueTest, isEmpty_eq_of_length_eq h]
  split
  · rfl
  · exact blank_pushLikes dialect "p0.value" h

theorem blank_fragment (dialect : Dialect) {clause other : Clause} (h : clause.shape = other.shape) :
    clause.fragment.blank dialect = other.fragment.blank dialect := by
  cases clause with
  | tag name =>
      cases other with
      | property key patterns => cases h
      | tag another => simp [fragment, nameIs]
  | property key patterns =>
      cases other with
      | tag another => cases h
      | property another others =>
          have hvalues := blank_valueTest dialect (Option.some.inj h)
          simp [fragment, nameIs, hvalues]

theorem isPlain_valueTest (patterns : List String) : (valueTest patterns).IsPlain := by
  rw [valueTest]
  split
  · exact Fragment.isPlain_sql (by decide)
  · exact isPlain_pushLikes (by decide) patterns

theorem isPlain_fragment (clause : Clause) : clause.fragment.IsPlain := by
  cases clause with
  | tag name =>
      have hname : (nameIs "(" name).IsPlain := (Fragment.isPlain_sql (by decide)).pushParam _
      exact hname.pushSql (by decide)
  | property key patterns =>
      have hname : (nameIs "" key).IsPlain := (Fragment.isPlain_sql (by decide)).pushParam _
      refine (Fragment.isPlain_join (fun fragment hfragment => ?_) (by decide)).parenthesized
      rcases List.mem_cons.1 hfragment with rfl | hfragment
      · exact hname.pushSql (by decide)
      · exact List.mem_singleton.1 hfragment ▸ isPlain_valueTest patterns

end Clause

namespace IdQuery

theorem blank_fragment_counted (dialect : Dialect) {clauses others : List Clause}
    (h : clauses.map Clause.shape = others.map Clause.shape) (required other : Nat) :
    (counted clauses required).fragment.blank dialect =
      (counted others other).fragment.blank dialect := by
  have hclauses : clauses.map (fun clause => clause.fragment.blank dialect) =
      others.map fun clause => clause.fragment.blank dialect :=
    map_eq_map_of_map_eq (fun _ _ => Clause.blank_fragment dialect) h
  simp [fragment, Function.comp_def, hclauses]

theorem blank_fragment_tagLike (dialect : Dialect) (pattern other : String) :
    (tagLike pattern).fragment.blank dialect = (tagLike other).fragment.blank dialect := by
  simp [fragment]

theorem isPlain_fragment (query : IdQuery) : query.fragment.IsPlain := by
  have hbefore : (Fragment.sql "SELECT p0.channel_id FROM property p0 WHERE ").IsPlain :=
    Fragment.isPlain_sql (by decide)
  cases query with
  | tagLike pattern => exact (hbefore.pushLikeFolded (by decide) pattern).pushSql (by decide)
  | counted clauses required =>
      have hclauses : (Fragment.join (clauses.map Clause.fragment) " OR ").IsPlain := by
        refine Fragment.isPlain_join (fun fragment hfragment => ?_) (by decide)
        obtain ⟨clause, -, rfl⟩ := List.mem_map.1 hfragment
        exact clause.isPlain_fragment
      exact ((hbefore.push hclauses).pushSql (by decide)).pushParam _

end IdQuery

namespace Criteria

/-- Criteria that ask for equally many keys, with equally many globs each, and for equally many
exact tags. -/
structure SameShape (criteria other : Criteria) : Prop where
  properties : criteria.properties.map (fun entry => entry.values.length) =
    other.properties.map fun entry => entry.values.length
  exactTags : criteria.exactTags.length = other.exactTags.length

theorem SameShape.map_shape_clauses {criteria other : Criteria} (h : criteria.SameShape other) :
    criteria.clauses.map Clause.shape = other.clauses.map Clause.shape := by
  have hproperties : criteria.properties.map (Clause.shape ∘ Clause.ofProperty) =
      other.properties.map (Clause.shape ∘ Clause.ofProperty) := by
    refine map_eq_map_of_map_eq (fun entry another hlength => ?_) h.properties
    simpa [Clause.ofProperty, Clause.shape] using hlength
  have htags : criteria.exactTags.map (Clause.shape ∘ Clause.tag) =
      other.exactTags.map (Clause.shape ∘ Clause.tag) := by
    simp [Function.comp_def, Clause.shape, List.map_const', h.exactTags]
  rw [clauses, clauses, List.map_append, List.map_append, List.map_map, List.map_map, List.map_map,
    List.map_map, hproperties, htags]

theorem SameShape.requiresPropertyMatch_eq {criteria other : Criteria}
    (h : criteria.SameShape other) :
    criteria.requiresPropertyMatch = other.requiresPropertyMatch := by
  have hproperties := congrArg List.length h.properties
  rw [List.length_map, List.length_map] at hproperties
  rw [requiresPropertyMatch, requiresPropertyMatch, isEmpty_eq_of_length_eq hproperties,
    isEmpty_eq_of_length_eq h.exactTags]

theorem SameShape.propertyMatch?_sql_eq {criteria other : Criteria} (h : criteria.SameShape other)
    (dialect : Dialect) :
    (criteria.propertyMatch?.map fun query => (query.fragment.render dialect).sql) =
      other.propertyMatch?.map fun query => (query.fragment.render dialect).sql := by
  -- The number of matches required is a value as well, so it may be any.
  have hblank := IdQuery.blank_fragment_counted dialect h.map_shape_clauses
    criteria.requiredMatches other.requiredMatches
  rw [propertyMatch?, propertyMatch?, h.requiresPropertyMatch_eq]
  split
  · exact congrArg some (Fragment.sql_render_eq_of_blank hblank)
  · rfl

end Criteria

namespace RowQuery

/-- Row queries with equally many names, which both restrict the channels or both do not; where each
id has a slot of its own, they have equally many ids. -/
structure SameShape (dialect : Dialect) (query other : RowQuery) : Prop where
  names : query.names.length = other.names.length
  restricted : query.ids.isSome = other.ids.isSome
  ids : dialect = .mysql →
    (query.ids.map fun ids => ids.toList.length) = other.ids.map fun ids => ids.toList.length

/-- Restrictions to lists of identifiers have one text, where each has a slot of its own only if they
are equally long. -/
theorem blank_pushInList (dialect : Dialect) (column : String) {ids others : List Int}
    (h : dialect = .mysql → ids.length = others.length) :
    (Fragment.empty.pushInList column ids).blank dialect =
      (Fragment.empty.pushInList column others).blank dialect := by
  rw [Fragment.pushInList, Fragment.pushInList, Fragment.blank_pushPart, Fragment.blank_pushPart,
    Part.blank, Part.blank]
  split
  · rename_i hmysql
    rw [h hmysql]
  · rfl

theorem SameShape.map_blank_conditions {dialect : Dialect} {query other : RowQuery}
    (h : query.SameShape dialect other) :
    query.conditions.map (Fragment.blank dialect) =
      other.conditions.map (Fragment.blank dialect) := by
  obtain ⟨hnames, hrestricted, hids⟩ := h
  rw [conditions, conditions, isEmpty_eq_of_length_eq hnames, List.map_append, List.map_append]
  -- First come the identifiers, then the names.
  congr 1
  · cases hquery : query.ids with
    | none =>
        rw [hquery] at hrestricted
        rw [Option.isNone_iff_eq_none.1 (Option.isSome_eq_false_iff.1 hrestricted.symm)]
    | some ids =>
        rw [hquery] at hrestricted hids
        obtain ⟨others, hothers⟩ := Option.isSome_iff_exists.1 hrestricted.symm
        rw [hothers] at hids ⊢
        have hsize : dialect = .mysql → (ids.toList.map ChannelId.toInt).length =
            (others.toList.map ChannelId.toInt).length := by
          intro hmysql
          simpa using hids hmysql
        exact congrArg (fun blanked => [blanked]) (blank_pushInList dialect "c.id" hsize)
  · split
    · rfl
    · exact congrArg (fun blanked => [blanked]) (blank_pushLikes dialect "c.name" hnames)

theorem SameShape.sql_eq {dialect : Dialect} {query other : RowQuery}
    (h : query.SameShape dialect other) :
    (query.fragment.render dialect).sql = (other.fragment.render dialect).sql := by
  apply Fragment.sql_render_eq_of_blank
  have hconditions := h.map_blank_conditions
  have hcount := congrArg List.length hconditions
  rw [List.length_map, List.length_map] at hcount
  rw [fragment, fragment]
  simp only [isEmpty_eq_of_length_eq hcount]
  split
  · rfl
  · simp [hconditions]

theorem isPlain_of_mem_conditions (query : RowQuery) :
    ∀ fragment ∈ query.conditions, fragment.IsPlain := by
  intro fragment hfragment
  rcases List.mem_append.1 hfragment with hids | hnames
  · obtain ⟨ids, -, rfl⟩ := Option.map_eq_some_iff.1 (Option.mem_toList.1 hids)
    exact Fragment.isPlain_empty.pushInList (by decide) _
  · split at hnames
    · cases hnames
    · rw [List.mem_singleton.1 hnames]
      exact isPlain_pushLikes (by decide) query.names

theorem isPlain_fragment (query : RowQuery) : query.fragment.IsPlain := by
  have hlisting : (Fragment.sql projection).IsPlain := Fragment.isPlain_sql (by decide)
  have hconditions : (Fragment.join query.conditions " AND ").IsPlain :=
    Fragment.isPlain_join query.isPlain_of_mem_conditions (by decide)
  rw [fragment]
  split
  · exact hlisting.pushSql (by decide)
  · exact ((hlisting.pushSql (by decide)).push hconditions).pushSql (by decide)

end RowQuery

/-- **Data never reaches the text of a statement, and slots line up with values.**  In every dialect
the statement for keys and exact tags has one text for all criteria of a shape, that for a tag glob
has one text for all globs, and the listing has one text for all row queries of a shape.  In every
statement of a search the slots in the text correspond to the values. -/
theorem statements_hide_data (dialect : Dialect) :
    (∀ criteria other : Criteria, criteria.SameShape other →
      (criteria.propertyMatch?.map fun query => (query.fragment.render dialect).sql) =
        other.propertyMatch?.map fun query => (query.fragment.render dialect).sql) ∧
    (∀ glob other : String,
      ((IdQuery.ofTagPattern glob).fragment.render dialect).sql =
        ((IdQuery.ofTagPattern other).fragment.render dialect).sql) ∧
    (∀ query other : RowQuery, query.SameShape dialect other →
      (query.fragment.render dialect).sql = (other.fragment.render dialect).sql) ∧
    (∀ query : IdQuery, (query.fragment.render dialect).LinesUp dialect) ∧
    ∀ query : RowQuery, (query.fragment.render dialect).LinesUp dialect := by
  refine ⟨fun _ _ h => h.propertyMatch?_sql_eq dialect, fun glob other => ?_, fun _ _ h => h.sql_eq,
    fun query => query.isPlain_fragment.render_linesUp dialect,
    fun query => query.isPlain_fragment.render_linesUp dialect⟩
  exact Fragment.sql_render_eq_of_blank (IdQuery.blank_fragment_tagLike dialect _ _)

/-- A key, two globs and a tag that are written like parts of a statement. -/
def Criteria.hostile : Criteria :=
  { properties := [⟨"') OR 1=1 --", ["$2", "\\'?"]⟩], exactTags := ["? ESCAPE '\\'"] }

/-- An ordinary key with two globs, and an ordinary tag. -/
def Criteria.harmless : Criteria :=
  { properties := [⟨"color", ["r*", "b*"]⟩], exactTags := ["new"] }

theorem statements_hide_data_hostile :
    Criteria.hostile.SameShape Criteria.harmless ∧
      (Criteria.hostile.propertyMatch?.map fun query => (query.fragment.render .postgres).sql) =
        Criteria.harmless.propertyMatch?.map fun query =>
          (query.fragment.render .postgres).sql := by
  have hshape : Criteria.hostile.SameShape Criteria.harmless := ⟨rfl, rfl⟩
  exact ⟨hshape, (statements_hide_data .postgres).1 _ _ hshape⟩

end ChannelCatalog
