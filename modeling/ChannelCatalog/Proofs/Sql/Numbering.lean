import ChannelCatalog.Proofs.Sql.Canonical

/-!
# Slots of fragments that are appended

The slots of a fragment that is appended come after those before it.  So its text stays as it is where
slots are not numbered; in PostgreSQL the number of each of its placeholders grows by the number of
slots before (`Part.stretchesFrom_add`).

What the slots of a fragment are bound to is known from how it was built (`Fragment.Binds`): to values,
and to sets of ids.  A set is one value, in whatever dialect, but MySQL has a slot for each of its
members.
-/

namespace ChannelCatalog
namespace Sql

/-! ## Numbered placeholders -/

/-- A stretch of the text of a PostgreSQL statement: text as it stands, or the placeholder of a
slot. -/
inductive Stretch
  | sql (text : String)
  | slot (number : Nat)
deriving DecidableEq, Repr

namespace Stretch

/-- The stretch as it stands in a statement. -/
def write : Stretch → String
  | .sql text => text
  | .slot number => "$" ++ toString number

/-- Stretches in sequence. -/
def writeAll (stretches : List Stretch) : String :=
  String.join (stretches.map write)

/-- The number of the slot, if the stretch is a placeholder. -/
def number? : Stretch → Option Nat
  | .sql _ => none
  | .slot number => some number

/-- The stretch after more slots: text stays as it is, and a slot counts these in. -/
def renumber (count : Nat) : Stretch → Stretch
  | .sql text => .sql text
  | .slot number => .slot (number + count)

theorem writeAll_append (stretches others : List Stretch) :
    writeAll (stretches ++ others) = writeAll stretches ++ writeAll others := by
  rw [writeAll, List.map_append, String.join_append]
  rfl

end Stretch

/-! ## What slots are bound to -/

/-- What is bound at one place of a fragment: a value, or a set of ids that a column is sought in. -/
inductive Binding
  | single (value : Param)
  | idSet (ids : List Int)
deriving DecidableEq, Repr

namespace Binding

/-- The binding as one value. -/
def logical : Binding → Param
  | .single value => value
  | .idSet ids => .intList ids

/-- The binding with the members of a set apart. A list of integers that is a value stays one. -/
def expanded : Binding → List Param
  | .single value => [value]
  | .idSet ids => ids.map Param.int

/-- The values that are bound in a dialect. -/
def params (binding : Binding) : Dialect → List Param
  | .sqlite | .postgres => [binding.logical]
  | .mysql => binding.expanded

end Binding

namespace Part

/-- What a part binds. -/
def binding? : Part → Option Binding
  | .param value => some (.single value)
  | .inList _ ids => some (.idSet ids)
  | .sql _ | .likeEscape => none

/-- The stretches of a part in a PostgreSQL statement, if its slot has the given number. -/
def stretches (slot : Nat) : Part → List Stretch
  | .sql text => [.sql text]
  | .param _ => [.slot slot]
  | .likeEscape => [.sql Dialect.postgres.likeEscape]
  | .inList column _ => [.sql (column ++ " = ANY("), .slot slot, .sql ")"]

/-- The stretches of parts in sequence, if their first slot has the given number. -/
def stretchesFrom (slot : Nat) : List Part → List Stretch
  | [] => []
  | part :: rest => part.stretches slot ++ stretchesFrom (slot + part.binding?.toList.length) rest

theorem value?_eq_map_binding? (part : Part) : part.value? = part.binding?.map Binding.logical := by
  cases part <;> rfl

/-! ## Parts behind more slots -/

theorem params_render (part : Part) (dialect : Dialect) (slot : Nat) :
    (part.render dialect slot).params =
      part.binding?.toList.flatMap fun binding => binding.params dialect := by
  cases part with
  | sql text => rfl
  | likeEscape => rfl
  | param value => cases dialect <;> rfl
  | inList column ids =>
      cases dialect with
      | sqlite => rfl
      | postgres => rfl
      | mysql => exact (List.append_nil _).symm

/-- **The values of a statement are those of its bindings**, whatever the number of its first slot. -/
theorem params_renderAll (dialect : Dialect) (slot : Nat) (parts : List Part) :
    (renderAll dialect slot parts).params =
      (parts.filterMap binding?).flatMap fun binding => binding.params dialect := by
  induction parts generalizing slot with
  | nil => rfl
  | cons part rest ih =>
      have hfirst := params_render part dialect slot
      rw [renderAll_cons, Statement.params_append, ih, hfirst, List.filterMap_cons]
      cases part.binding? with
      | none => rfl
      | some binding => simp

theorem length_params_render_postgres (part : Part) (slot : Nat) :
    (part.render .postgres slot).params.length = part.binding?.toList.length := by
  rw [params_render]
  cases part.binding? <;> rfl

/-- Where slots are not numbered, the text of parts does not depend on what stands before them. -/
theorem sql_renderAll_eq {dialect : Dialect} (hdialect : dialect ≠ .postgres) (slot other : Nat)
    (parts : List Part) :
    (renderAll dialect slot parts).sql = (renderAll dialect other parts).sql := by
  have hpart : ∀ (part : Part) (slot other : Nat),
      (part.render dialect slot).sql = (part.render dialect other).sql := by
    intro part slot other
    cases dialect with
    | postgres => exact absurd rfl hdialect
    | sqlite => cases part <;> rfl
    | mysql => cases part <;> rfl
  induction parts generalizing slot other with
  | nil => rfl
  | cons part rest ih =>
      rw [renderAll_cons, renderAll_cons, Statement.sql_append, Statement.sql_append,
        hpart part slot other, ih _ (other + (part.render dialect other).params.length)]

theorem sql_renderAll_postgres (slot : Nat) (parts : List Part) :
    (renderAll .postgres slot parts).sql = Stretch.writeAll (stretchesFrom slot parts) := by
  induction parts generalizing slot with
  | nil => rfl
  | cons part rest ih =>
      have hfirst : (part.render .postgres slot).sql = Stretch.writeAll (part.stretches slot) := by
        cases part with
        | sql text => exact String.empty_append.symm
        | param value => exact String.empty_append.symm
        | likeEscape => exact String.empty_append.symm
        | inList column ids =>
            simp [render, Dialect.inList, Dialect.placeholder, stretches, Stretch.writeAll,
              Stretch.write, String.join]
      rw [renderAll_cons, Statement.sql_append, ih, hfirst, length_params_render_postgres,
        stretchesFrom, Stretch.writeAll_append]

/-- **Each placeholder counts the slots before in.** -/
theorem stretchesFrom_add (slot count : Nat) (parts : List Part) :
    stretchesFrom (slot + count) parts = (stretchesFrom slot parts).map (Stretch.renumber count) := by
  induction parts generalizing slot with
  | nil => rfl
  | cons part rest ih =>
      have hfirst : part.stretches (slot + count) =
          (part.stretches slot).map (Stretch.renumber count) := by
        cases part <;> rfl
      rw [stretchesFrom, stretchesFrom, List.map_append, hfirst, Nat.add_right_comm, ih]

/-- Placeholders are numbered without gaps. -/
theorem filterMap_number?_stretchesFrom (slot : Nat) (parts : List Part) :
    (stretchesFrom slot parts).filterMap Stretch.number? =
      List.range' slot (parts.filterMap binding?).length := by
  induction parts generalizing slot with
  | nil => rfl
  | cons part rest ih =>
      rw [stretchesFrom, List.filterMap_append, ih]
      cases part with
      | sql text => rfl
      | likeEscape => rfl
      | param value => rfl
      | inList column ids => rfl

theorem filterMap_binding?_appendText (text : String) (parts : List Part) :
    (appendText text parts).filterMap binding? = parts.filterMap binding? := by
  rcases exists_eq_concat_sql_or parts with ⟨before, first, rfl⟩ | hlast
  · rw [appendText_concat_sql, List.filterMap_append, List.filterMap_append]
    rfl
  · rw [appendText_of_isText_eq_false text hlast, List.filterMap_append, appendText]
    split <;> exact List.append_nil _

end Part

namespace Fragment

/-- The stretches of the PostgreSQL statement of a fragment. -/
def stretches (fragment : Fragment) : List Stretch :=
  Part.stretchesFrom 1 fragment.parts

/-- What a fragment binds, in the order of its parts. -/
def bindings (fragment : Fragment) : List Binding :=
  fragment.parts.filterMap Part.binding?

/-! ## Bindings of fragments that are built -/

/-- What a fragment binds by the way it was built. -/
inductive Binds : Fragment → List Binding → Prop
  | empty : Binds empty []
  | sql (text : String) : Binds (sql text) []
  | pushSql {fragment : Fragment} {bindings : List Binding} (h : Binds fragment bindings)
      (text : String) : Binds (fragment.pushSql text) bindings
  | pushParam {fragment : Fragment} {bindings : List Binding} (h : Binds fragment bindings)
      (value : Param) : Binds (fragment.pushParam value) (bindings ++ [.single value])
  | pushLike {fragment : Fragment} {bindings : List Binding} (h : Binds fragment bindings)
      (column pattern : String) :
      Binds (fragment.pushLike column pattern) (bindings ++ [.single (.text pattern)])
  | pushLikeFolded {fragment : Fragment} {bindings : List Binding} (h : Binds fragment bindings)
      (column pattern : String) :
      Binds (fragment.pushLikeFolded column pattern) (bindings ++ [.single (.text pattern)])
  | pushInList {fragment : Fragment} {bindings : List Binding} (h : Binds fragment bindings)
      (column : String) (ids : List Int) :
      Binds (fragment.pushInList column ids) (bindings ++ [.idSet ids])
  | push {fragment other : Fragment} {bindings others : List Binding}
      (h : Binds fragment bindings) (hother : Binds other others) :
      Binds (fragment.push other) (bindings ++ others)
  | join {fragments : List Fragment} {bindingsOf : Fragment → List Binding}
      (h : ∀ fragment ∈ fragments, Binds fragment (bindingsOf fragment)) (separator : String) :
      Binds (join fragments separator) (fragments.flatMap bindingsOf)
  | parenthesized {fragment : Fragment} {bindings : List Binding} (h : Binds fragment bindings) :
      Binds fragment.parenthesized bindings

variable (fragment : Fragment)

@[simp] theorem bindings_empty : empty.bindings = [] := rfl

@[simp] theorem bindings_pushSql (text : String) : (fragment.pushSql text).bindings = fragment.bindings :=
  Part.filterMap_binding?_appendText text fragment.parts

theorem bindings_pushPart (part : Part) :
    (fragment.pushPart part).bindings = fragment.bindings ++ part.binding?.toList := by
  cases hpart : part.isText with
  | false =>
      rw [pushPart_of_not_isText fragment hpart, bindings, List.filterMap_append, bindings]
      cases part <;> rfl
  | true =>
      obtain ⟨text, rfl⟩ := Part.exists_eq_sql hpart
      exact (bindings_pushSql fragment text).trans (List.append_nil _).symm

@[simp] theorem bindings_sql (text : String) : (sql text).bindings = [] :=
  bindings_pushSql empty text

@[simp] theorem bindings_pushParam (value : Param) :
    (fragment.pushParam value).bindings = fragment.bindings ++ [.single value] :=
  bindings_pushPart fragment (.param value)

@[simp] theorem bindings_pushLike (column pattern : String) :
    (fragment.pushLike column pattern).bindings =
      fragment.bindings ++ [.single (.text pattern)] := by
  rw [pushLike, bindings_pushPart, bindings_pushParam, bindings_pushSql]
  exact List.append_nil _

@[simp] theorem bindings_pushLikeFolded (column pattern : String) :
    (fragment.pushLikeFolded column pattern).bindings =
      fragment.bindings ++ [.single (.text pattern)] := by
  rw [pushLikeFolded, bindings_pushPart, bindings_pushSql, bindings_pushParam, bindings_pushSql]
  exact List.append_nil _

@[simp] theorem bindings_pushInList (column : String) (ids : List Int) :
    (fragment.pushInList column ids).bindings = fragment.bindings ++ [.idSet ids] :=
  bindings_pushPart fragment (.inList column ids)

@[simp] theorem bindings_push (other : Fragment) :
    (fragment.push other).bindings = fragment.bindings ++ other.bindings := by
  obtain ⟨parts⟩ := other
  induction parts generalizing fragment with
  | nil => exact (List.append_nil _).symm
  | cons part rest ih =>
      rw [push_cons, ih, bindings_pushPart, List.append_assoc]
      refine congrArg (fragment.bindings ++ ·) ?_
      rw [bindings, bindings, List.filterMap_cons]
      cases part.binding? <;> rfl

@[simp] theorem bindings_join (fragments : List Fragment) (separator : String) :
    (join fragments separator).bindings = fragments.flatMap bindings := by
  cases fragments with
  | nil => rfl
  | cons first rest =>
      have hfold : ∀ joined : Fragment,
          (rest.foldl (fun joined next => (joined.pushSql separator).push next) joined).bindings =
            joined.bindings ++ rest.flatMap bindings := by
        induction rest with
        | nil => exact fun joined => (List.append_nil _).symm
        | cons next more ih =>
            intro joined
            rw [List.foldl_cons, ih, bindings_push, bindings_pushSql, List.append_assoc,
              List.flatMap_cons]
      rw [join, hfold, bindings_push]
      rfl

@[simp] theorem bindings_parenthesized : fragment.parenthesized.bindings = fragment.bindings := by
  simp [parenthesized]

variable {fragment}

/-- The parts of a fragment show what it was built to bind. -/
theorem Binds.bindings_eq {bindings : List Binding} (h : Binds fragment bindings) :
    fragment.bindings = bindings := by
  induction h with
  | empty => exact bindings_empty
  | sql text => exact bindings_sql text
  | pushSql _ text ih => rw [bindings_pushSql, ih]
  | pushParam _ value ih => rw [bindings_pushParam, ih]
  | pushLike _ column pattern ih => rw [bindings_pushLike, ih]
  | pushLikeFolded _ column pattern ih => rw [bindings_pushLikeFolded, ih]
  | pushInList _ column ids ih => rw [bindings_pushInList, ih]
  | push _ _ ih ihother => rw [bindings_push, ih, ihother]
  | join _ separator ih => rw [bindings_join]; exact List.flatMap_congr ih
  | parenthesized _ ih => rw [bindings_parenthesized, ih]

theorem Built.binds (h : Built fragment) : Binds fragment fragment.bindings := by
  induction h with
  | empty => exact .empty
  | sql text => rw [bindings_sql]; exact .sql text
  | pushSql _ text ih => rw [bindings_pushSql]; exact ih.pushSql text
  | pushParam _ value ih => rw [bindings_pushParam]; exact ih.pushParam value
  | pushLike _ column pattern ih => rw [bindings_pushLike]; exact ih.pushLike column pattern
  | pushLikeFolded _ column pattern ih =>
      rw [bindings_pushLikeFolded]; exact ih.pushLikeFolded column pattern
  | pushInList _ column ids ih => rw [bindings_pushInList]; exact ih.pushInList column ids
  | push _ _ ih ihother => rw [bindings_push]; exact ih.push ihother
  | join _ separator ih => rw [bindings_join]; exact .join ih separator
  | parenthesized _ ih => rw [bindings_parenthesized]; exact ih.parenthesized

/-! ## Statements of fragments that are appended -/

theorem params_render (dialect : Dialect) :
    (fragment.render dialect).params =
      fragment.bindings.flatMap fun binding => binding.params dialect :=
  Part.params_renderAll dialect 1 fragment.parts

theorem params_eq_map_logical : fragment.params = fragment.bindings.map Binding.logical := by
  rw [params, bindings, List.map_filterMap]
  exact congrArg (fragment.parts.filterMap ·) (funext Part.value?_eq_map_binding?)

theorem params_render_of_ne_mysql {dialect : Dialect} (hdialect : dialect ≠ .mysql) :
    (fragment.render dialect).params = fragment.params := by
  have hone : ∀ binding : Binding, binding.params dialect = [binding.logical] := by
    intro binding
    cases dialect with
    | sqlite => rfl
    | postgres => rfl
    | mysql => exact absurd rfl hdialect
  rw [params_render, params_eq_map_logical, List.map_eq_flatMap]
  exact List.flatMap_congr fun binding _ => hone binding

theorem render_push (fragment other : Fragment) (dialect : Dialect) :
    (fragment.push other).render dialect =
      fragment.render dialect ++
        Part.renderAll dialect (1 + (fragment.render dialect).params.length) other.parts :=
  renderFrom_push fragment dialect 1 other

/-- The values of an appended fragment come after those before it. -/
theorem params_render_push (fragment other : Fragment) (dialect : Dialect) :
    ((fragment.push other).render dialect).params =
      (fragment.render dialect).params ++ (other.render dialect).params := by
  rw [params_render, bindings_push, List.flatMap_append, ← params_render, ← params_render]

theorem sql_render_push {dialect : Dialect} (hdialect : dialect ≠ .postgres)
    (fragment other : Fragment) :
    ((fragment.push other).render dialect).sql =
      (fragment.render dialect).sql ++ (other.render dialect).sql := by
  rw [render_push, Statement.sql_append, Part.sql_renderAll_eq hdialect _ 1]
  rfl

theorem sql_render_push_postgres (fragment other : Fragment) :
    ((fragment.push other).render .postgres).sql =
      (fragment.render .postgres).sql ++ Stretch.writeAll
        (other.stretches.map (Stretch.renumber (fragment.render .postgres).params.length)) := by
  rw [render_push, Statement.sql_append, Part.sql_renderAll_postgres, Part.stretchesFrom_add]
  rfl

theorem length_params_render_postgres (fragment : Fragment) :
    (fragment.render .postgres).params.length = fragment.bindings.length := by
  rw [params_render_of_ne_mysql (by decide), params_eq_map_logical, List.length_map]

/-- **Appending goes through rendering.**  The values of two fragments follow each other in each
dialect, and so do their texts; only the placeholders of PostgreSQL are numbered, and those of the
second fragment count the slots of the first one in.  The values are what the fragment was built to
bind, where a set of ids is one value but in MySQL, which has a slot for each member. -/
theorem rendering_composes :
    (∀ fragment other : Fragment,
      (∀ dialect, ((fragment.push other).render dialect).params =
        (fragment.render dialect).params ++ (other.render dialect).params) ∧
      (∀ dialect, dialect ≠ .postgres → ((fragment.push other).render dialect).sql =
        (fragment.render dialect).sql ++ (other.render dialect).sql) ∧
      ((fragment.push other).render .postgres).sql =
        (fragment.render .postgres).sql ++ Stretch.writeAll
          (other.stretches.map (Stretch.renumber (fragment.render .postgres).params.length))) ∧
    (∀ fragment : Fragment,
      (fragment.render .postgres).sql = Stretch.writeAll fragment.stretches ∧
      fragment.stretches.filterMap Stretch.number? =
        List.range' 1 (fragment.render .postgres).params.length) ∧
    (∀ fragment bindings, Binds fragment bindings →
      fragment.params = bindings.map Binding.logical ∧
      (fragment.render .sqlite).params = fragment.params ∧
      (fragment.render .postgres).params = fragment.params ∧
      (fragment.render .mysql).params = bindings.flatMap Binding.expanded) ∧
    ∀ fragment, Built fragment → ∃ bindings, Binds fragment bindings := by
  refine ⟨fun fragment other => ⟨params_render_push fragment other,
    fun _ hdialect => sql_render_push hdialect fragment other,
    sql_render_push_postgres fragment other⟩, fun fragment => ⟨?_, ?_⟩, ?_, fun _ h => ⟨_, h.binds⟩⟩
  · exact Part.sql_renderAll_postgres 1 fragment.parts
  · rw [length_params_render_postgres]
    exact Part.filterMap_number?_stretchesFrom 1 fragment.parts
  · intro fragment bindings h
    rw [← h.bindings_eq]
    exact ⟨params_eq_map_logical, params_render_of_ne_mysql (by decide),
      params_render_of_ne_mysql (by decide), params_render .mysql⟩

/-- Text that begins with a digit is appended to a placeholder, and a set of ids stands before a list
that is a value. -/
theorem rendering_composes_digits :
    (((((sql "a = ").pushParam (.int 7)).push
        (((sql "0 AND ").pushInList "id" [3, 4]).pushParam (.intList [5]))).render .postgres).sql =
      "a = $10 AND id = ANY($2)$3") ∧
    ((((sql "a = ").pushParam (.int 7)).push
        (((sql "0 AND ").pushInList "id" [3, 4]).pushParam (.intList [5]))).render .mysql).params =
      [.int 7, .int 3, .int 4, .intList [5]] := by
  obtain ⟨happend, -, hbinds, -⟩ := rendering_composes
  have hbuilt := ((Binds.sql "a = ").pushParam (.int 7)).push
    (((Binds.sql "0 AND ").pushInList "id" [3, 4]).pushParam (.intList [5]))
  exact ⟨(happend _ _).2.2.trans (by decide +kernel), (hbinds _ _ hbuilt).2.2.2⟩

end Fragment
end Sql
end ChannelCatalog
