import ChannelCatalog.Proofs.Sql.Slots

/-!
# Fragments without their data

A fragment is blanked by putting the same data everywhere in place of its own.  Blanking goes
through every way to put fragments together, and a blanked fragment renders to the same text.  So
fragments that are equal once they are blanked render to one text, whatever data they hold.
-/

namespace ChannelCatalog
namespace Sql

namespace Part

/-- A part with blank data.  Only in MySQL the number of ids in a set is more than data. -/
def blank (dialect : Dialect) : Part → Part
  | .sql text => .sql text
  | .param _ => .param (.int 0)
  | .likeEscape => .likeEscape
  | .inList column ids =>
    .inList column (if dialect = .mysql then List.replicate ids.length 0 else [])

theorem render_blank (dialect : Dialect) (slot : Nat) (part : Part) :
    ((part.blank dialect).render dialect slot).sql = (part.render dialect slot).sql ∧
      ((part.blank dialect).render dialect slot).params.length =
        (part.render dialect slot).params.length := by
  cases part with
  | sql text => exact ⟨rfl, rfl⟩
  | param value => exact ⟨rfl, rfl⟩
  | likeEscape => exact ⟨rfl, rfl⟩
  | inList column ids =>
      cases dialect with
      | sqlite => exact ⟨rfl, rfl⟩
      | postgres => exact ⟨rfl, rfl⟩
      | mysql => simp [blank, render, Dialect.inList]

theorem sql_renderAll_blank (dialect : Dialect) (slot : Nat) (parts : List Part) :
    (renderAll dialect slot (parts.map (blank dialect))).sql = (renderAll dialect slot parts).sql := by
  induction parts generalizing slot with
  | nil => rfl
  | cons part rest ih =>
      obtain ⟨hsql, hlength⟩ := render_blank dialect slot part
      rw [List.map_cons, renderAll, renderAll, hsql, hlength, ih]

theorem map_blank_appendText (dialect : Dialect) (text : String) (parts : List Part) :
    (appendText text parts).map (blank dialect) = appendText text (parts.map (blank dialect)) := by
  induction parts with
  | nil =>
      rw [List.map_nil, appendText]
      split <;> rfl
  | cons part rest ih =>
      cases rest with
      | nil => cases part <;> simp [appendText, blank] at ih ⊢ <;> exact ih
      | cons next more =>
          rw [appendText_cons_cons, List.map_cons, ih, List.map_cons, List.map_cons, List.map_cons,
            appendText_cons_cons]

end Part

namespace Fragment

variable (dialect : Dialect)

/-- A fragment with blank data. -/
def blank (fragment : Fragment) : Fragment :=
  ⟨fragment.parts.map (Part.blank dialect)⟩

variable {dialect}

/-- **The text of a statement does not show its data.** -/
theorem sql_render_eq_of_blank {fragment other : Fragment}
    (h : fragment.blank dialect = other.blank dialect) :
    (fragment.render dialect).sql = (other.render dialect).sql := by
  rw [render, render, ← Part.sql_renderAll_blank, ← Part.sql_renderAll_blank dialect 1 other.parts]
  exact congrArg (fun blanked => (Part.renderAll dialect 1 (Fragment.parts blanked)).sql) h

@[simp] theorem blank_pushSql (fragment : Fragment) (text : String) :
    (fragment.pushSql text).blank dialect = (fragment.blank dialect).pushSql text :=
  congrArg Fragment.mk (Part.map_blank_appendText dialect text fragment.parts)

theorem blank_pushPart (fragment : Fragment) (part : Part) :
    (fragment.pushPart part).blank dialect =
      (fragment.blank dialect).pushPart (part.blank dialect) := by
  cases part with
  | sql text => exact blank_pushSql fragment text
  | param value => simp [pushPart, blank, Part.blank]
  | likeEscape => simp [pushPart, blank, Part.blank]
  | inList column ids => simp [pushPart, blank, Part.blank]

@[simp] theorem blank_sql (text : String) : (sql text).blank dialect = sql text :=
  blank_pushSql empty text

@[simp] theorem blank_pushParam (fragment : Fragment) (value : Param) :
    (fragment.pushParam value).blank dialect = (fragment.blank dialect).pushParam (.int 0) :=
  blank_pushPart fragment (.param value)

@[simp] theorem blank_pushLike (fragment : Fragment) (column pattern : String) :
    (fragment.pushLike column pattern).blank dialect =
      (((fragment.blank dialect).pushSql (column ++ " LIKE ")).pushParam (.int 0)).pushPart
        .likeEscape := by
  rw [pushLike, blank_pushPart, blank_pushParam, blank_pushSql]
  rfl

@[simp] theorem blank_pushLikeFolded (fragment : Fragment) (column pattern : String) :
    (fragment.pushLikeFolded column pattern).blank dialect =
      ((((fragment.blank dialect).pushSql ("LOWER(" ++ column ++ ") LIKE LOWER(")).pushParam
        (.int 0)).pushSql ")").pushPart .likeEscape := by
  rw [pushLikeFolded, blank_pushPart, blank_pushSql, blank_pushParam, blank_pushSql]
  rfl

@[simp] theorem blank_push (fragment other : Fragment) :
    (fragment.push other).blank dialect =
      (fragment.blank dialect).push (other.blank dialect) := by
  have hparts : (other.blank dialect).parts = other.parts.map (Part.blank dialect) := rfl
  rw [push, push, hparts, List.foldl_map]
  exact (List.foldl_hom (blank dialect) fun before part => (blank_pushPart before part).symm).symm

@[simp] theorem blank_parenthesized (fragment : Fragment) :
    fragment.parenthesized.blank dialect = (fragment.blank dialect).parenthesized := by
  rw [parenthesized, parenthesized, blank_pushSql, blank_push, blank_sql]

@[simp] theorem blank_join (fragments : List Fragment) (separator : String) :
    (join fragments separator).blank dialect =
      join (fragments.map (blank dialect)) separator := by
  cases fragments with
  | nil => rfl
  | cons first rest =>
      rw [List.map_cons, join, join, List.foldl_map]
      have hfirst : empty.push (first.blank dialect) = (empty.push first).blank dialect :=
        (blank_push empty first).symm
      rw [hfirst]
      refine (List.foldl_hom (blank dialect) fun joined fragment => ?_).symm
      rw [blank_push, blank_pushSql]

/-! ## Plain texts -/

theorem isPlain_empty : empty.IsPlain := by
  intro part hpart
  cases hpart

end Fragment

/-- Appending plain text leaves all texts plain. -/
theorem isPlain_of_mem_appendText {text : String} (htext : IsPlainText text) {parts : List Part}
    (hparts : ∀ part ∈ parts, part.IsPlain) : ∀ part ∈ Part.appendText text parts, part.IsPlain := by
  fun_induction Part.appendText text parts with
  | case1 => exact hparts
  | case2 => simpa [Part.IsPlain] using htext
  | case3 before =>
      have hbefore : IsPlainText before := hparts (.sql before) List.mem_cons_self
      simpa [Part.IsPlain] using hbefore.append htext
  | case4 part rest hlast ih =>
      intro other hother
      rcases List.mem_cons.1 hother with rfl | hother
      · exact hparts other List.mem_cons_self
      · exact ih (fun p hp => hparts p (List.mem_cons_of_mem part hp)) other hother

namespace Fragment

variable {fragment other : Fragment}

theorem IsPlain.pushSql (h : fragment.IsPlain) {text : String} (htext : IsPlainText text) :
    (fragment.pushSql text).IsPlain :=
  isPlain_of_mem_appendText htext h

theorem IsPlain.pushPart (h : fragment.IsPlain) {part : Part} (hpart : part.IsPlain) :
    (fragment.pushPart part).IsPlain := by
  have hlast : ∀ other ∈ fragment.parts ++ [part], other.IsPlain := by
    intro other hother
    rcases List.mem_append.1 hother with hother | hother
    · exact h other hother
    · exact List.mem_singleton.1 hother ▸ hpart
  cases part with
  | sql text => exact h.pushSql hpart
  | param value => exact hlast
  | likeEscape => exact hlast
  | inList column ids => exact hlast

theorem isPlain_sql {text : String} (htext : IsPlainText text) : (sql text).IsPlain :=
  isPlain_empty.pushSql htext

theorem IsPlain.pushParam (h : fragment.IsPlain) (value : Param) :
    (fragment.pushParam value).IsPlain :=
  h.pushPart trivial

theorem IsPlain.pushLike (h : fragment.IsPlain) {column : String} (hcolumn : IsPlainText column)
    (pattern : String) : (fragment.pushLike column pattern).IsPlain :=
  ((h.pushSql (hcolumn.append (by decide))).pushParam _).pushPart trivial

theorem IsPlain.pushLikeFolded (h : fragment.IsPlain) {column : String}
    (hcolumn : IsPlainText column) (pattern : String) :
    (fragment.pushLikeFolded column pattern).IsPlain :=
  (((h.pushSql (((show IsPlainText "LOWER(" by decide).append hcolumn).append
    (by decide))).pushParam _).pushSql (by decide)).pushPart trivial

theorem IsPlain.pushInList (h : fragment.IsPlain) {column : String} (hcolumn : IsPlainText column)
    (ids : List Int) : (fragment.pushInList column ids).IsPlain :=
  h.pushPart hcolumn

theorem IsPlain.push (h : fragment.IsPlain) (hother : other.IsPlain) :
    (fragment.push other).IsPlain :=
  List.foldlRecOn other.parts Fragment.pushPart h
    fun _ hbefore part hpart => hbefore.pushPart (hother part hpart)

theorem IsPlain.parenthesized (h : fragment.IsPlain) : fragment.parenthesized.IsPlain :=
  ((isPlain_sql (by decide)).push h).pushSql (by decide)

theorem isPlain_join {fragments : List Fragment} (h : ∀ fragment ∈ fragments, fragment.IsPlain)
    {separator : String} (hseparator : IsPlainText separator) :
    (join fragments separator).IsPlain := by
  cases fragments with
  | nil => exact isPlain_empty
  | cons first rest =>
      refine List.foldlRecOn rest _ (isPlain_empty.push (h first List.mem_cons_self)) ?_
      intro joined hjoined fragment hfragment
      exact (hjoined.pushSql hseparator).push (h fragment (List.mem_cons_of_mem first hfragment))

end Fragment
end Sql
end ChannelCatalog
