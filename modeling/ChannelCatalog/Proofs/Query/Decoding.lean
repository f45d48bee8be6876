import ChannelCatalog.Proofs.Sql.Rendering
import ChannelCatalog.Query

/-!
# Statements tell their criteria

Keys, globs and tags of a search become one list of values, and only the text of the statement tells
which of them belong together.  It tells enough: clauses read back from their statements
(`Clause.readsBack_fragment`), and so do sets of identifiers, in whatever way a dialect binds them.
Hence equal statements come from equal criteria, up to the translation of globs.
-/

namespace ChannelCatalog

open Sql
open Fragment (Layout ReadsBack renderFrom_join_cons renderEach)

namespace Clause

/-- How a test of the value stands in a statement. -/
def valueLayout : Layout :=
  ⟨"(", " OR ", ")", "p0.value IS NOT NULL"⟩

theorem renderFrom_valueTest (patterns : List String) (dialect : Dialect) (slot : Nat) :
    (valueTest patterns).renderFrom dialect slot =
      valueLayout.render dialect (Fragment.empty.pushLike "p0.value") slot patterns := by
  unfold valueTest Layout.render
  split
  · exact Fragment.renderFrom_sql dialect slot _
  · exact Fragment.renderFrom_parenthesized _ dialect slot

theorem readsBack_valueTest (dialect : Dialect) : ReadsBack dialect valueTest := by
  intro slot patterns others next other heq
  rw [renderFrom_valueTest, renderFrom_valueTest] at heq
  exact (Fragment.readsBack_pushLike dialect "p0.value").row_of_apart (by decide) (by decide) heq

theorem renderFrom_property (key : String) (patterns : List String) (dialect : Dialect)
    (slot : Nat) :
    (property key patterns).fragment.renderFrom dialect slot =
      .ofText "(LOWER(p0.property) = LOWER(" ++ (.ofParam dialect slot (.text key) ++
        (.ofText ") AND " ++
          ((valueTest patterns).renderFrom dialect (slot + 1) ++ .ofText ")"))) := by
  have hbefore : Statement.ofText "(LOWER(p0.property) = LOWER(" =
    .ofText "(" ++ .ofText "LOWER(p0.property) = LOWER(" := rfl
  have hbetween : Statement.ofText ") AND " = .ofText ")" ++ .ofText " AND " := rfl
  rw [hbefore, hbetween]
  simp [fragment, nameIs, renderFrom_join_cons, renderEach]

theorem renderFrom_tag (name : String) (dialect : Dialect) (slot : Nat) :
    (tag name).fragment.renderFrom dialect slot =
      .ofText "(LOWER(p0.property) = LOWER(" ++ (.ofParam dialect slot (.text name) ++
        (.ofText ") AND " ++ .ofText "p0.value IS NULL)")) := by
  have hafter : Statement.ofText ") AND p0.value IS NULL)" =
    .ofText ") AND " ++ .ofText "p0.value IS NULL)" := rfl
  simp [fragment, nameIs, hafter]

/-- The test of a value is not that for no value. -/
theorem valueTest_ne_null (dialect : Dialect) (slot : Nat) (patterns : List String)
    (next other : Statement) :
    (valueTest patterns).renderFrom dialect slot ++ next ≠
      .ofText "p0.value IS NULL)" ++ other := by
  rw [renderFrom_valueTest]
  exact Layout.render_append_ne (by decide) (by decide) _ _

/-- A clause is told from its statement. -/
theorem readsBack_fragment (dialect : Dialect) : ReadsBack dialect fragment := by
  intro slot clause another next other heq
  cases clause with
  | property key patterns =>
      cases another with
      | property key' others =>
          simp only [renderFrom_property, Statement.append_assoc, Statement.append_right_inj,
            Statement.ofParam_append_inj, Param.text.injEq] at heq
          obtain ⟨rfl, hvalues⟩ := heq
          obtain ⟨rfl, hrest⟩ := readsBack_valueTest dialect _ _ _ _ _ hvalues
          exact ⟨rfl, Statement.append_right_inj.1 hrest⟩
      | tag name =>
          simp only [renderFrom_property, renderFrom_tag, Statement.append_assoc,
            Statement.append_right_inj, Statement.ofParam_append_inj] at heq
          exact absurd heq.2 (valueTest_ne_null _ _ _ _ _)
  | tag name =>
      cases another with
      | property key patterns =>
          simp only [renderFrom_property, renderFrom_tag, Statement.append_assoc,
            Statement.append_right_inj, Statement.ofParam_append_inj] at heq
          exact absurd heq.2.symm (valueTest_ne_null _ _ _ _ _)
      | tag name' =>
          simp only [renderFrom_tag, Statement.append_assoc, Statement.append_right_inj,
            Statement.ofParam_append_inj, Param.text.injEq] at heq
          exact ⟨congrArg tag heq.1, heq.2⟩

end Clause

namespace IdQuery

/-- A counted query is told from its statement. -/
theorem counted_eq_of_render {dialect : Dialect} {clauses others : List Clause}
    {required another : Nat} (hclauses : clauses ≠ []) (hothers : others ≠ [])
    (h : (counted clauses required).fragment.render dialect =
      (counted others another).fragment.render dialect) : clauses = others := by
  simp only [Fragment.render_eq_renderFrom, fragment, Fragment.renderFrom_pushParam,
    Fragment.renderFrom_pushSql, Fragment.renderFrom_push, Fragment.renderFrom_sql,
    Statement.append_assoc, Statement.append_right_inj] at h
  exact ((Clause.readsBack_fragment dialect).join (by decide) hclauses hothers h).1

end IdQuery

/-! ## Sets of identifiers -/

section InList

/-- A slot for a single identifier. -/
def idSlot (id : Int) : Fragment :=
  Fragment.empty.pushParam (.int id)

theorem renderFrom_idSlot (id : Int) (dialect : Dialect) (slot : Nat) :
    (idSlot id).renderFrom dialect slot = .ofParam dialect slot (.int id) := by
  simp [idSlot]

theorem readsBack_idSlot (dialect : Dialect) : ReadsBack dialect idSlot := by
  intro slot id another next other heq
  simpa only [renderFrom_idSlot, Statement.ofParam_append_inj, Param.int.injEq] using heq

theorem renderFrom_join_idSlot (slot : Nat) (ids : List Int) :
    (Fragment.join (ids.map idSlot) ",").renderFrom .mysql slot =
      ⟨String.intercalate "," (List.replicate ids.length "?"), ids.map Param.int⟩ := by
  induction ids generalizing slot with
  | nil => rfl
  | cons id rest ih =>
      cases rest with
      | nil => simp [renderFrom_join_cons, renderEach, renderFrom_idSlot, Statement.ofParam,
          Dialect.placeholder]
      | cons next more =>
          rw [List.map_cons, List.map_cons, Fragment.renderFrom_join_cons_cons, ← List.map_cons, ih,
            renderFrom_idSlot, Statement.eq_iff]
          refine ⟨?_, rfl⟩
          change "?" ++ ("," ++ String.intercalate "," (List.replicate (more.length + 1) "?")) =
            String.intercalate "," (List.replicate (more.length + 1 + 1) "?")
          rw [List.replicate_succ, List.replicate_succ, List.replicate_succ,
            String.intercalate_cons_cons, String.append_assoc]

/-- How a set of identifiers stands in a statement where each of them has a slot. -/
def idLayout (column : String) : Layout :=
  ⟨column ++ " IN (", ",", ")", column ++ " IN (" ++ ")"⟩

/-- In MySQL the members of a set have slots of their own, between commas. -/
theorem inList_mysql (slot : Nat) (column : String) (ids : List Int) :
    Dialect.mysql.inList slot column ids = (idLayout column).render .mysql idSlot slot ids := by
  have hslots : ((List.range ids.length).map fun i => Dialect.mysql.placeholder (slot + i)) =
      List.replicate ids.length "?" := by
    simp [Dialect.placeholder, List.map_const']
  simp only [Dialect.inList, hslots, Layout.render, idLayout, renderFrom_join_idSlot]
  cases ids with
  | nil => exact Statement.eq_iff.2 ⟨congrArg (· ++ ")") String.append_empty, rfl⟩
  | cons id rest => exact Statement.eq_iff.2 ⟨String.append_assoc, (List.append_nil _).symm⟩

/-- Some members are told from none. -/
theorem render_idLayout_ne {column : String} {slot : Nat} {ids : List Int} (next other : Statement)
    (hids : ids ≠ []) :
    (idLayout column).render .mysql idSlot slot ids ++ next ≠
      .ofText (idLayout column).otherwise ++ other := by
  intro heq
  have hapart : Apart "?" ")" := by decide
  rw [Layout.render_of_ne_nil hids] at heq
  obtain ⟨id, rest, rfl⟩ := List.exists_cons_of_ne_nil hids
  rw [List.map_cons, renderFrom_join_cons, renderFrom_idSlot] at heq
  simp only [idLayout, Statement.ofText_append (column ++ " IN ("), Statement.append_assoc,
    Statement.append_right_inj] at heq
  exact hapart.append_ne_append _ _ (congrArg Statement.sql heq)

theorem renderFrom_pushInList (dialect : Dialect) (slot : Nat) (column : String)
    (ids : List Int) :
    (Fragment.empty.pushInList column ids).renderFrom dialect slot =
      dialect.inList slot column ids :=
  (Fragment.renderFrom_pushPart _ _ _ _).trans (Statement.empty_append _)

theorem exists_sql_pushInList (dialect : Dialect) (slot : Nat) (column : String)
    (ids : List Int) :
    ∃ rest, ((Fragment.empty.pushInList column ids).renderFrom dialect slot).sql =
      column ++ rest := by
  rw [renderFrom_pushInList]
  cases dialect with
  | sqlite => exact ⟨_, String.append_assoc.trans String.append_assoc⟩
  | postgres => exact ⟨_, String.append_assoc.trans String.append_assoc⟩
  | mysql => exact ⟨_, String.append_assoc.trans String.append_assoc⟩

/-- A set of identifiers is told from its statement, in whatever way it is bound. -/
theorem readsBack_pushInList (dialect : Dialect) (column : String) :
    ReadsBack dialect (Fragment.empty.pushInList column) := by
  intro slot ids others next other heq
  rw [renderFrom_pushInList, renderFrom_pushInList] at heq
  cases dialect with
  | sqlite =>
      have hlist : ∀ ids : List Int, Dialect.sqlite.inList slot column ids =
          .ofText (column ++ " IN rarray(") ++
            (.ofParam .sqlite slot (.intList ids) ++ .ofText ")") :=
        fun ids => Statement.eq_iff.2 ⟨String.append_assoc, rfl⟩
      simpa [hlist, Statement.append_right_inj, Statement.ofParam_append_inj] using heq
  | postgres =>
      have hlist : ∀ ids : List Int, Dialect.postgres.inList slot column ids =
          .ofText (column ++ " = ANY(") ++
            (.ofParam .postgres slot (.intList ids) ++ .ofText ")") :=
        fun ids => Statement.eq_iff.2 ⟨String.append_assoc, rfl⟩
      simpa [hlist, Statement.append_right_inj, Statement.ofParam_append_inj] using heq
  | mysql =>
      have hseparator : Apart "," ")" := by decide
      rw [inList_mysql, inList_mysql] at heq
      exact (readsBack_idSlot .mysql).row hseparator render_idLayout_ne heq

end InList

namespace RowQuery

/-- How every listing ends. -/
def ordering : String :=
  " ORDER BY c.name, p.property"

/-- The test of the name. -/
def nameTest (names : List String) : Fragment :=
  (Fragment.join (names.map (Fragment.empty.pushLike "c.name")) " OR ").parenthesized

/-- How a listing ends: the test of the name, if there is one, after the given word, and the order
of rows. -/
def ending (word : String) : Layout :=
  ⟨word ++ "(", " OR ", ")" ++ ordering, ordering⟩

/-- How the names of a listing stand in its statement, after the given word. -/
def renderNames (word : String) (dialect : Dialect) : Nat → List String → Statement :=
  (ending word).render dialect (Fragment.empty.pushLike "c.name")

theorem renderNames_eq (word : String) (dialect : Dialect) (slot : Nat) (names : List String) :
    renderNames word dialect slot names =
      if names.isEmpty then .ofText ordering
      else .ofText word ++ ((nameTest names).renderFrom dialect slot ++ .ofText ordering) := by
  rw [renderNames, Layout.render, nameTest, Fragment.renderFrom_parenthesized]
  simp only [ending, Statement.ofText_append, Statement.append_assoc]

theorem renderFrom_fragment_none (names : List String) (dialect : Dialect) (slot : Nat) :
    (fragment ⟨none, names⟩).renderFrom dialect slot =
      .ofText projection ++ renderNames " WHERE " dialect slot names := by
  rw [renderNames_eq]
  cases names with
  | nil => simp [fragment, conditions, ordering]
  | cons name rest =>
      simp [fragment, conditions, ordering, nameTest, renderFrom_join_cons, renderEach]

/-- The test of the identifier. -/
def idTest (ids : IdSet) : Fragment :=
  Fragment.empty.pushInList "c.id" (ids.toList.map ChannelId.toInt)

theorem renderFrom_fragment_some (ids : IdSet) (names : List String) (dialect : Dialect)
    (slot : Nat) :
    (fragment ⟨some ids, names⟩).renderFrom dialect slot =
      .ofText projection ++ (.ofText " WHERE " ++ ((idTest ids).renderFrom dialect slot ++
        renderNames " AND " dialect
          (slot + ((idTest ids).renderFrom dialect slot).params.length) names)) := by
  have hconditions : conditions ⟨some ids, names⟩ =
      idTest ids :: if names.isEmpty then [] else [nameTest names] := rfl
  rw [renderNames_eq]
  cases names with
  | nil => simp [fragment, hconditions, ordering, renderFrom_join_cons, renderEach]
  | cons name rest => simp [fragment, hconditions, ordering, renderFrom_join_cons, renderEach]

theorem eq_of_renderNames_eq {word : String} (hword : Apart (word ++ "(") ordering)
    {names others : List String} {dialect : Dialect} {slot : Nat}
    (heq : renderNames word dialect slot names = renderNames word dialect slot others) :
    names = others := by
  have hclosing : Apart " OR " (")" ++ ordering) := by decide
  rw [← Statement.append_empty (renderNames word dialect slot names),
    ← Statement.append_empty (renderNames word dialect slot others)] at heq
  exact ((Fragment.readsBack_pushLike dialect "c.name").row_of_apart hclosing hword heq).1

/-- A listing of all channels is not one of given channels. -/
theorem renderNames_ne_idTest (names : List String) (ids : IdSet) (dialect : Dialect) (slot : Nat)
    (next : Statement) :
    renderNames " WHERE " dialect slot names ≠
      .ofText " WHERE " ++ ((idTest ids).renderFrom dialect slot ++ next) := by
  intro heq
  obtain ⟨rest, hrest⟩ : ∃ rest, ((idTest ids).renderFrom dialect slot).sql = "c.id" ++ rest :=
    exists_sql_pushInList dialect slot "c.id" _
  have hbegins : .ofText " WHERE " ++ ((idTest ids).renderFrom dialect slot ++ next) =
      .ofText " WHERE c.id" ++
        ⟨rest ++ next.sql, ((idTest ids).renderFrom dialect slot).params ++ next.params⟩ := by
    refine Statement.eq_iff.2 ⟨?_, rfl⟩
    rw [Statement.sql_append, Statement.sql_append (Fragment.renderFrom _ _ _), hrest]
    simp only [Statement.ofText, Statement.sql_append, ← String.append_assoc]
    rfl
  rw [hbegins, ← Statement.append_empty (renderNames _ _ _ _)] at heq
  exact Layout.render_append_ne (by decide) (by decide) _ _ heq

/-- A listing is told from its statement. -/
theorem eq_of_render_eq {dialect : Dialect} {query other : RowQuery}
    (h : query.fragment.render dialect = other.fragment.render dialect) : query = other := by
  rw [Fragment.render_eq_renderFrom, Fragment.render_eq_renderFrom] at h
  obtain ⟨ids, names⟩ := query
  obtain ⟨others, more⟩ := other
  cases ids with
  | none =>
      cases others with
      | none =>
          rw [renderFrom_fragment_none, renderFrom_fragment_none,
            Statement.append_right_inj] at h
          rw [eq_of_renderNames_eq (by decide) h]
      | some others =>
          rw [renderFrom_fragment_none, renderFrom_fragment_some,
            Statement.append_right_inj] at h
          exact absurd h (renderNames_ne_idTest _ _ _ _ _)
  | some ids =>
      cases others with
      | none =>
          rw [renderFrom_fragment_none, renderFrom_fragment_some,
            Statement.append_right_inj] at h
          exact absurd h.symm (renderNames_ne_idTest _ _ _ _ _)
      | some others =>
          rw [renderFrom_fragment_some, renderFrom_fragment_some,
            Statement.append_right_inj, Statement.append_right_inj] at h
          obtain ⟨hids, hnames⟩ := readsBack_pushInList dialect "c.id" _ _ _ _ _ h
          have hlists : ids.toList = others.toList :=
            (List.map_inj_right fun _ _ => ChannelId.toInt_injective).1 hids
          obtain rfl := IdSet.toList_injective hlists
          rw [eq_of_renderNames_eq (by decide) hnames]

end RowQuery

namespace Criteria

/-- Clauses for properties come before those for tags, and the two are of different forms. -/
theorem append_map_tag_eq_iff {entries others : List Entry} {tags more : List String} :
    entries.map Clause.ofProperty ++ tags.map Clause.tag =
        others.map Clause.ofProperty ++ more.map Clause.tag ↔
      entries.map Clause.ofProperty = others.map Clause.ofProperty ∧ tags = more := by
  have htag : ∀ (entry : Entry) (rest : List Clause) (tags : List String),
      tags.map Clause.tag ≠ Clause.ofProperty entry :: rest := by
    intro entry rest tags h
    cases tags with
    | nil => cases h
    | cons tag _ => cases (List.cons.inj h).1
  induction entries generalizing others with
  | nil =>
      cases others with
      | nil => simpa using List.map_inj_right fun _ _ => Clause.tag.inj
      | cons another rest => simp [htag another]
  | cons entry rest ih =>
      cases others with
      | nil => simp [(htag entry _ _).symm]
      | cons another more => simp [ih, and_assoc]

theorem map_ofProperty_eq_iff {entries others : List Entry} :
    entries.map Clause.ofProperty = others.map Clause.ofProperty ↔
      entries.map Entry.key = others.map Entry.key ∧
        (entries.map fun entry => entry.values.map Glob.toLike) =
          others.map fun entry => entry.values.map Glob.toLike := by
  induction entries generalizing others with
  | nil => cases others <;> simp
  | cons entry rest ih =>
      cases others with
      | nil => simp
      | cons another more =>
          simp only [List.map_cons, List.cons.injEq, ih, Clause.ofProperty, Clause.property.injEq]
          tauto

/-- The question for property keys and exact tags tells its clauses by its statement. -/
theorem render_propertyMatch?_eq_iff {criteria other : Criteria} {dialect : Dialect} :
    (criteria.propertyMatch?.map fun query => query.fragment.render dialect) =
        (other.propertyMatch?.map fun query => query.fragment.render dialect) ↔
      criteria.clauses = other.clauses := by
  by_cases hclauses : criteria.clauses = []
  · by_cases hothers : other.clauses = []
    · simp [propertyMatch?_of_clauses_eq_nil, hclauses, hothers]
    · simp [propertyMatch?_of_clauses_eq_nil hclauses, propertyMatch?_of_clauses_ne_nil hothers,
        hclauses, Ne.symm hothers]
  · by_cases hothers : other.clauses = []
    · simp [propertyMatch?_of_clauses_ne_nil hclauses, propertyMatch?_of_clauses_eq_nil hothers,
        hclauses, hothers]
    · rw [propertyMatch?_of_clauses_ne_nil hclauses, propertyMatch?_of_clauses_ne_nil hothers,
        Option.map_some, Option.map_some, Option.some.injEq]
      exact ⟨IdQuery.counted_eq_of_render hclauses hothers, fun h => by rw [h]⟩

end Criteria

/-- **Statements tell their criteria.** In every dialect the statement for property keys and exact
tags is the same, with the same values, for two criteria exactly when they have the same keys, the
same translated globs for each key, and the same tags.  A listing is the same exactly when it is
among the same identifiers and for the same translated globs. -/
theorem statements_tell_criteria (dialect : Dialect) :
    (∀ criteria other : Criteria,
      (criteria.propertyMatch?.map fun query => query.fragment.render dialect) =
          (other.propertyMatch?.map fun query => query.fragment.render dialect) ↔
        criteria.properties.map Entry.key = other.properties.map Entry.key ∧
          (criteria.properties.map fun entry => entry.values.map Glob.toLike) =
            (other.properties.map fun entry => entry.values.map Glob.toLike) ∧
          criteria.exactTags = other.exactTags) ∧
    ∀ (names others : List String) (ids another : Option IdSet),
      (RowQuery.ofNames names ids).fragment.render dialect =
          (RowQuery.ofNames others another).fragment.render dialect ↔
        ids = another ∧ names.map Glob.toLike = others.map Glob.toLike := by
  refine ⟨fun criteria other => ?_, fun names others ids another => ?_⟩
  · rw [Criteria.render_propertyMatch?_eq_iff, Criteria.clauses, Criteria.clauses,
      Criteria.append_map_tag_eq_iff, Criteria.map_ofProperty_eq_iff, and_assoc]
  · refine ⟨fun h => RowQuery.mk.injEq _ _ _ _ ▸ RowQuery.eq_of_render_eq h, ?_⟩
    rintro ⟨rfl, hnames⟩
    rw [RowQuery.ofNames, RowQuery.ofNames, hnames]

end ChannelCatalog
