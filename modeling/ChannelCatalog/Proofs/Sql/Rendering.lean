import ChannelCatalog.Sql.Fragment
import Mathlib.Data.List.Basic

/-!
# Statements in sequence

Fragments are put together in many ways, and rendered one part after the other.  So the statement of
what was put together is the statements of its pieces in sequence (`Fragment.renderFrom_push`,
`Fragment.renderFrom_join`), where each piece begins with the slot after those before it.

A family of fragments reads back if what begins with the statement of a member tells the member and
where the rest begins (`Fragment.ReadsBack`).  Then rows of members, joined with a separator, are
told from their statements as well, in whatever layout (`Fragment.ReadsBack.row`).
-/

namespace ChannelCatalog
namespace Sql

namespace Statement

instance : Append Statement :=
  ⟨fun first next => ⟨first.sql ++ next.sql, first.params ++ next.params⟩⟩

/-- A piece of a statement that is text only. -/
def ofText (text : String) : Statement := ⟨text, []⟩

/-- A piece of a statement that is a slot with its value. -/
def ofParam (dialect : Dialect) (slot : Nat) (value : Param) : Statement :=
  ⟨dialect.placeholder slot, [value]⟩

@[simp] theorem sql_append (first next : Statement) : (first ++ next).sql = first.sql ++ next.sql :=
  rfl

@[simp] theorem params_append (first next : Statement) :
    (first ++ next).params = first.params ++ next.params :=
  rfl

@[simp] theorem params_ofText (text : String) : (ofText text).params = [] := rfl

@[simp] theorem params_ofParam (dialect : Dialect) (slot : Nat) (value : Param) :
    (ofParam dialect slot value).params = [value] :=
  rfl

theorem eq_iff {first next : Statement} :
    first = next ↔ first.sql = next.sql ∧ first.params = next.params := by
  cases first
  cases next
  exact Statement.mk.injEq _ _ _ _ ▸ Iff.rfl

@[simp] theorem append_assoc (first next last : Statement) :
    first ++ next ++ last = first ++ (next ++ last) :=
  eq_iff.2 ⟨String.append_assoc, List.append_assoc _ _ _⟩

@[simp] theorem empty_append (statement : Statement) : ofText "" ++ statement = statement :=
  eq_iff.2 ⟨String.empty_append, List.nil_append _⟩

@[simp] theorem append_empty (statement : Statement) : statement ++ ofText "" = statement :=
  eq_iff.2 ⟨String.append_empty, List.append_nil _⟩

theorem ofText_append (before after : String) :
    ofText (before ++ after) = ofText before ++ ofText after :=
  rfl

theorem append_right_inj {first next other : Statement} :
    first ++ next = first ++ other ↔ next = other := by
  rw [eq_iff, eq_iff, sql_append, sql_append, params_append, params_append, List.append_right_inj,
    String.append_right_inj]

theorem ofParam_append_inj {dialect : Dialect} {slot : Nat} {value another : Param}
    {next other : Statement} :
    ofParam dialect slot value ++ next = ofParam dialect slot another ++ other ↔
      value = another ∧ next = other := by
  rw [eq_iff, eq_iff]
  simp only [sql_append, params_append, ofParam, List.cons_append, List.nil_append,
    List.cons.injEq, String.append_right_inj]
  exact and_left_comm

end Statement

/-- Neither text is the beginning of the other. -/
def Apart (text other : String) : Prop :=
  ¬ text.toList <+: other.toList ∧ ¬ other.toList <+: text.toList

instance (text other : String) : Decidable (Apart text other) :=
  inferInstanceAs (Decidable (_ ∧ _))

theorem Apart.append_ne_append {text other : String} (h : Apart text other) (next last : String) :
    text ++ next ≠ other ++ last := by
  intro heq
  have hlists := congrArg String.toList heq
  rw [String.toList_append, String.toList_append] at hlists
  have hprefix : text.toList <+: other.toList ++ last.toList := ⟨_, hlists⟩
  rcases List.prefix_or_prefix_of_prefix hprefix (List.prefix_append _ _) with hleft | hright
  · exact h.1 hleft
  · exact h.2 hright

theorem Apart.ofText_append_ne {text other : String} (h : Apart text other)
    (next last : Statement) : Statement.ofText text ++ next ≠ Statement.ofText other ++ last :=
  fun heq => h.append_ne_append next.sql last.sql (congrArg Statement.sql heq)

namespace Part

variable (dialect : Dialect) (slot : Nat)

theorem renderAll_cons (part : Part) (rest : List Part) :
    renderAll dialect slot (part :: rest) = part.render dialect slot ++
      renderAll dialect (slot + (part.render dialect slot).params.length) rest :=
  rfl

theorem renderAll_append (parts more : List Part) :
    renderAll dialect slot (parts ++ more) = renderAll dialect slot parts ++
      renderAll dialect (slot + (renderAll dialect slot parts).params.length) more := by
  induction parts generalizing slot with
  | nil => exact (Statement.empty_append _).symm
  | cons part rest ih =>
      rw [List.cons_append, renderAll_cons, renderAll_cons, ih, Statement.append_assoc,
        Statement.params_append, List.length_append, Nat.add_assoc]

theorem renderAll_appendText (text : String) (parts : List Part) :
    renderAll dialect slot (appendText text parts) =
      renderAll dialect slot parts ++ Statement.ofText text := by
  induction parts generalizing slot with
  | nil =>
      rw [appendText]
      split
      · rename_i hempty
        exact hempty ▸ rfl
      · exact (Statement.append_empty _).trans (Statement.empty_append _).symm
  | cons part rest ih =>
      have hrest : renderAll dialect slot (part :: appendText text rest) =
          renderAll dialect slot (part :: rest) ++ Statement.ofText text := by
        rw [renderAll_cons, renderAll_cons, ih, Statement.append_assoc]
      cases rest with
      | nil =>
          cases part with
          | sql before =>
              -- The only part is text, which takes in what is appended.
              have hsingle : ∀ only : String,
                  renderAll dialect slot [.sql only] = Statement.ofText only :=
                fun only => Statement.append_empty _
              exact (hsingle _).trans (congrArg (· ++ Statement.ofText text) (hsingle before).symm)
          | param value => exact hrest
          | likeEscape => exact hrest
          | inList column ids => exact hrest
      | cons next more => rw [appendText_cons_cons, hrest]

end Part

namespace Fragment

/-- A fragment as it stands in a statement where its first slot has the given number. -/
def renderFrom (fragment : Fragment) (dialect : Dialect) (slot : Nat) : Statement :=
  Part.renderAll dialect slot fragment.parts

variable (fragment : Fragment) (dialect : Dialect) (slot : Nat)

theorem render_eq_renderFrom : fragment.render dialect = fragment.renderFrom dialect 1 := rfl

@[simp] theorem renderFrom_empty : empty.renderFrom dialect slot = Statement.ofText "" := rfl

@[simp] theorem renderFrom_pushSql (text : String) :
    (fragment.pushSql text).renderFrom dialect slot =
      fragment.renderFrom dialect slot ++ Statement.ofText text :=
  Part.renderAll_appendText dialect slot text fragment.parts

theorem renderFrom_pushPart (part : Part) :
    (fragment.pushPart part).renderFrom dialect slot =
      fragment.renderFrom dialect slot ++
        part.render dialect (slot + (fragment.renderFrom dialect slot).params.length) := by
  have hlast : ∀ last : Part, renderFrom ⟨fragment.parts ++ [last]⟩ dialect slot =
      fragment.renderFrom dialect slot ++
        last.render dialect (slot + (fragment.renderFrom dialect slot).params.length) := by
    intro last
    refine (Part.renderAll_append dialect slot _ _).trans ?_
    rw [Part.renderAll_cons]
    exact congrArg (_ ++ ·) (Statement.append_empty _)
  cases part with
  | sql text => exact renderFrom_pushSql fragment dialect slot text
  | param value => exact hlast _
  | likeEscape => exact hlast _
  | inList column ids => exact hlast _

@[simp] theorem renderFrom_sql (text : String) :
    (sql text).renderFrom dialect slot = Statement.ofText text := by
  rw [sql, renderFrom_pushSql, renderFrom_empty, Statement.empty_append]

@[simp] theorem renderFrom_pushParam (value : Param) :
    (fragment.pushParam value).renderFrom dialect slot =
      fragment.renderFrom dialect slot ++
        .ofParam dialect (slot + (fragment.renderFrom dialect slot).params.length) value :=
  renderFrom_pushPart fragment dialect slot (.param value)

@[simp] theorem renderFrom_pushLike (column pattern : String) :
    (fragment.pushLike column pattern).renderFrom dialect slot =
      fragment.renderFrom dialect slot ++ (Statement.ofText (column ++ " LIKE ") ++
        (.ofParam dialect (slot + (fragment.renderFrom dialect slot).params.length)
          (.text pattern) ++ .ofText dialect.likeEscape)) := by
  rw [pushLike, renderFrom_pushPart, renderFrom_pushParam, renderFrom_pushSql]
  simp [Part.render, Statement.ofText]

/-- **Rendering goes through appending**: the slots of what is appended come after those before. -/
@[simp] theorem renderFrom_push (other : Fragment) :
    (fragment.push other).renderFrom dialect slot =
      fragment.renderFrom dialect slot ++
        other.renderFrom dialect (slot + (fragment.renderFrom dialect slot).params.length) := by
  obtain ⟨parts⟩ := other
  rw [push]
  induction parts generalizing fragment with
  | nil => exact (Statement.append_empty _).symm
  | cons part rest ih =>
      rw [List.foldl_cons, ih, renderFrom_pushPart, Statement.append_assoc, Statement.params_append,
        List.length_append, ← Nat.add_assoc]
      rfl

@[simp] theorem renderFrom_parenthesized :
    fragment.parenthesized.renderFrom dialect slot =
      .ofText "(" ++ (fragment.renderFrom dialect slot ++ .ofText ")") := by
  simp [parenthesized]

/-- Fragments in sequence, each after a separator. -/
def renderEach (dialect : Dialect) (separator : String) (slot : Nat) : List Fragment → Statement
  | [] => .ofText ""
  | fragment :: rest =>
    .ofText separator ++ (fragment.renderFrom dialect slot ++
      renderEach dialect separator
        (slot + (fragment.renderFrom dialect slot).params.length) rest)

theorem renderFrom_join_cons (rest : List Fragment) (separator : String) :
    (join (fragment :: rest) separator).renderFrom dialect slot =
      fragment.renderFrom dialect slot ++
        renderEach dialect separator
          (slot + (fragment.renderFrom dialect slot).params.length) rest := by
  have hfold : ∀ joined : Fragment,
      (rest.foldl (fun joined other => (joined.pushSql separator).push other) joined).renderFrom
          dialect slot =
        joined.renderFrom dialect slot ++ renderEach dialect separator
          (slot + (joined.renderFrom dialect slot).params.length) rest := by
    induction rest with
    | nil => exact fun joined => (Statement.append_empty _).symm
    | cons next more ih =>
        intro joined
        rw [List.foldl_cons, ih, renderEach]
        simp [Nat.add_assoc]
  rw [join, hfold]
  simp

theorem renderFrom_join_cons_cons (next : Fragment) (rest : List Fragment) (separator : String) :
    (join (fragment :: next :: rest) separator).renderFrom dialect slot =
      fragment.renderFrom dialect slot ++ (.ofText separator ++
        (join (next :: rest) separator).renderFrom dialect
          (slot + (fragment.renderFrom dialect slot).params.length)) := by
  rw [renderFrom_join_cons, renderFrom_join_cons, renderEach]

/-! ## Reading back -/

section ReadsBack

variable {α : Type}

/-- What begins with the statement of a member tells the member and where the rest begins. -/
def ReadsBack (dialect : Dialect) (family : α → Fragment) : Prop :=
  ∀ (slot : Nat) (a b : α) (next other : Statement),
    (family a).renderFrom dialect slot ++ next = (family b).renderFrom dialect slot ++ other →
      a = b ∧ next = other

variable {dialect} {family : α → Fragment} {separator ending : String}

theorem ReadsBack.renderEach (h : ReadsBack dialect family) (hapart : Apart separator ending)
    {slot : Nat} {members others : List α} {next other : Statement}
    (heq : Fragment.renderEach dialect separator slot (members.map family) ++
        (.ofText ending ++ next) =
      Fragment.renderEach dialect separator slot (others.map family) ++ (.ofText ending ++ other)) :
    members = others ∧ next = other := by
  induction members generalizing slot others with
  | nil =>
      cases others with
      | nil => simpa [Fragment.renderEach, Statement.append_right_inj] using heq
      | cons another more =>
          simp only [List.map_nil, List.map_cons, Fragment.renderEach, Statement.empty_append,
            Statement.append_assoc] at heq
          exact absurd heq.symm (hapart.ofText_append_ne _ _)
  | cons member rest ih =>
      cases others with
      | nil =>
          simp only [List.map_nil, List.map_cons, Fragment.renderEach, Statement.empty_append,
            Statement.append_assoc] at heq
          exact absurd heq (hapart.ofText_append_ne _ _)
      | cons another more =>
          simp only [List.map_cons, Fragment.renderEach, Statement.append_assoc,
            Statement.append_right_inj] at heq
          obtain ⟨rfl, hrest⟩ := h _ _ _ _ _ heq
          obtain ⟨rfl, hnext⟩ := ih hrest
          exact ⟨rfl, hnext⟩

/-- Members that are joined with a separator are told from what ends in another way. -/
theorem ReadsBack.join (h : ReadsBack dialect family) (hapart : Apart separator ending)
    {slot : Nat} {members others : List α} (hmembers : members ≠ []) (hothers : others ≠ [])
    {next other : Statement}
    (heq : (Fragment.join (members.map family) separator).renderFrom dialect slot ++
        (.ofText ending ++ next) =
      (Fragment.join (others.map family) separator).renderFrom dialect slot ++
        (.ofText ending ++ other)) :
    members = others ∧ next = other := by
  obtain ⟨member, rest, rfl⟩ := List.exists_cons_of_ne_nil hmembers
  obtain ⟨another, more, rfl⟩ := List.exists_cons_of_ne_nil hothers
  rw [List.map_cons, List.map_cons, renderFrom_join_cons, renderFrom_join_cons,
    Statement.append_assoc, Statement.append_assoc] at heq
  obtain ⟨rfl, hrest⟩ := h _ _ _ _ _ heq
  obtain ⟨rfl, hnext⟩ := h.renderEach hapart hrest
  exact ⟨rfl, hnext⟩

/-- The texts of a row of members: those before, between and after them, and the one that stands in
place of all this where there are none. -/
structure Layout where
  opening : String
  separator : String
  closing : String
  otherwise : String

/-- A row of members in a layout. -/
def Layout.render (layout : Layout) (dialect : Dialect) (family : α → Fragment) (slot : Nat)
    (members : List α) : Statement :=
  if members.isEmpty then .ofText layout.otherwise
  else .ofText layout.opening ++
    ((Fragment.join (members.map family) layout.separator).renderFrom dialect slot ++
      .ofText layout.closing)

variable {layout : Layout} {slot : Nat} {members others : List α}

theorem Layout.render_of_ne_nil (hmembers : members ≠ []) :
    layout.render dialect family slot members =
      .ofText layout.opening ++
        ((Fragment.join (members.map family) layout.separator).renderFrom dialect slot ++
          .ofText layout.closing) :=
  if_neg (by simpa using hmembers)

/-- A row does not begin like a text from which both of its possible beginnings are apart. -/
theorem Layout.render_append_ne {text : String} (hopening : Apart layout.opening text)
    (hotherwise : Apart layout.otherwise text) (next other : Statement) :
    layout.render dialect family slot members ++ next ≠ .ofText text ++ other := by
  by_cases hmembers : members = []
  · subst hmembers
    exact hotherwise.ofText_append_ne _ _
  · rw [render_of_ne_nil hmembers, Statement.append_assoc]
    exact hopening.ofText_append_ne _ _

/-- A row is told from its statement if the text for no members does not look like one. -/
theorem ReadsBack.row (h : ReadsBack dialect family)
    (hseparator : Apart layout.separator layout.closing)
    (hsome : ∀ {slot : Nat} {members : List α} (next other : Statement), members ≠ [] →
      layout.render dialect family slot members ++ next ≠ .ofText layout.otherwise ++ other)
    {next other : Statement}
    (heq : layout.render dialect family slot members ++ next =
      layout.render dialect family slot others ++ other) : members = others ∧ next = other := by
  by_cases hmembers : members = []
  · by_cases hothers : others = []
    · subst hmembers hothers
      exact ⟨rfl, Statement.append_right_inj.1 heq⟩
    · subst hmembers
      exact absurd heq.symm (hsome _ _ hothers)
  · by_cases hothers : others = []
    · subst hothers
      exact absurd heq (hsome _ _ hmembers)
    · rw [Layout.render_of_ne_nil hmembers, Layout.render_of_ne_nil hothers] at heq
      simp only [Statement.append_assoc, Statement.append_right_inj] at heq
      exact h.join hseparator hmembers hothers heq

/-- That is so if the row does not begin like the text. -/
theorem ReadsBack.row_of_apart (h : ReadsBack dialect family)
    (hseparator : Apart layout.separator layout.closing)
    (hopening : Apart layout.opening layout.otherwise) {next other : Statement}
    (heq : layout.render dialect family slot members ++ next =
      layout.render dialect family slot others ++ other) : members = others ∧ next = other := by
  refine h.row hseparator (fun next other hmembers => ?_) heq
  rw [Layout.render_of_ne_nil hmembers, Statement.append_assoc]
  exact hopening.ofText_append_ne _ _

theorem readsBack_pushLike (dialect : Dialect) (column : String) :
    ReadsBack dialect (empty.pushLike column) := by
  intro slot pattern another next other heq
  simp only [renderFrom_pushLike, renderFrom_empty, Statement.empty_append, Statement.append_assoc,
    Statement.append_right_inj, Statement.ofParam_append_inj, Param.text.injEq] at heq
  exact heq

end ReadsBack

end Fragment
end Sql
end ChannelCatalog
