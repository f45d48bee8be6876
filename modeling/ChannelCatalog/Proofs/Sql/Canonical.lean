import ChannelCatalog.Proofs.Sql.Rendering
import Mathlib.Data.List.Chain

/-!
# Fragments in canonical form

The text of a fragment may be put together from many pieces.  However that is done, no part of the
fragment is empty text, and no text stands next to text (`Part.Canonical`).  So fragments with the
same pieces in the same order are equal, and appending is that of a monoid: it does not matter which
seam is closed first, and the empty fragment changes nothing.
-/

namespace ChannelCatalog
namespace Sql

namespace Part

/-- Whether a part is text. -/
def isText : Part → Bool
  | .sql _ => true
  | .param _ | .likeEscape | .inList _ _ => false

/-- Text stands in few parts: none is empty, and none is next to another. -/
structure Canonical (parts : List Part) : Prop where
  nonempty : ∀ part ∈ parts, part ≠ .sql ""
  separated : parts.IsChain fun part next => ¬ (part.isText ∧ next.isText)

theorem canonical_nil : Canonical [] :=
  ⟨List.forall_mem_nil _, List.isChain_nil⟩

theorem canonical_concat_iff {parts : List Part} {last : Part} :
    Canonical (parts ++ [last]) ↔
      Canonical parts ∧ last ≠ .sql "" ∧ ∀ before ∈ parts.getLast?, ¬ (before.isText ∧ last.isText) := by
  constructor
  · rintro ⟨hnonempty, hseparated⟩
    rw [List.forall_mem_append, List.forall_mem_singleton] at hnonempty
    obtain ⟨hparts, -, hseam⟩ := List.isChain_append.1 hseparated
    exact ⟨⟨hnonempty.1, hparts⟩, hnonempty.2, fun before hbefore => hseam before hbefore last rfl⟩
  · rintro ⟨⟨hnonempty, hseparated⟩, hlast, hseam⟩
    refine ⟨List.forall_mem_append.2 ⟨hnonempty, List.forall_mem_singleton.2 hlast⟩,
      List.isChain_append.2 ⟨hseparated, List.isChain_singleton _, ?_⟩⟩
    intro before hbefore next hnext
    obtain rfl : last = next := Option.some.inj hnext
    exact hseam before hbefore

/-! ## Appending text -/

theorem exists_eq_sql {part : Part} (h : part.isText = true) : ∃ text, part = .sql text := by
  cases part with
  | sql text => exact ⟨text, rfl⟩
  | param value => cases h
  | likeEscape => cases h
  | inList column ids => cases h

/-- Text stands last, or no text does. -/
theorem exists_eq_concat_sql_or (parts : List Part) :
    (∃ before first, parts = before ++ [.sql first]) ∨
      ∀ last ∈ parts.getLast?, last.isText = false := by
  rcases List.eq_nil_or_concat' parts with rfl | ⟨before, last, rfl⟩
  · exact Or.inr fun _ hlast => by cases hlast
  · cases htext : last.isText with
    | false =>
        refine Or.inr fun other hother => ?_
        rw [List.getLast?_concat] at hother
        obtain rfl : last = other := Option.some.inj hother
        exact htext
    | true =>
        obtain ⟨first, rfl⟩ := exists_eq_sql htext
        exact Or.inl ⟨before, first, rfl⟩

/-- Only the last part has to do with text that is appended. -/
theorem appendText_append (text : String) (parts : List Part) {more : List Part} (hmore : more ≠ []) :
    appendText text (parts ++ more) = parts ++ appendText text more := by
  induction parts with
  | nil => rfl
  | cons part rest ih =>
      obtain ⟨next, others, hrest⟩ :=
        List.exists_cons_of_ne_nil (List.append_ne_nil_of_right_ne_nil rest hmore)
      rw [List.cons_append, hrest, appendText_cons_cons, ← hrest, ih, List.cons_append]

/-- Text is appended to text that stands last. -/
theorem appendText_concat_sql (text first : String) (parts : List Part) :
    appendText text (parts ++ [.sql first]) = parts ++ [.sql (first ++ text)] :=
  appendText_append text parts (List.cons_ne_nil _ [])

/-- Where no text stands last, the parts stay as they are. -/
theorem appendText_of_isText_eq_false (text : String) {parts : List Part}
    (hparts : ∀ last ∈ parts.getLast?, last.isText = false) :
    appendText text parts = parts ++ appendText text [] := by
  rcases List.eq_nil_or_concat' parts with rfl | ⟨before, last, rfl⟩
  · rfl
  · have hlast : last.isText = false := hparts last List.getLast?_concat
    rw [appendText_append text before (List.cons_ne_nil last []), List.append_assoc]
    refine congrArg (before ++ ·) ?_
    cases last with
    | sql first => cases hlast
    | param value => rfl
    | likeEscape => rfl
    | inList column ids => rfl

theorem appendText_nil {text : String} (htext : text ≠ "") : appendText text [] = [.sql text] :=
  if_neg htext

@[simp] theorem appendText_empty (parts : List Part) : appendText "" parts = parts := by
  rcases exists_eq_concat_sql_or parts with ⟨before, first, rfl⟩ | hlast
  · rw [appendText_concat_sql, String.append_empty]
  · rw [appendText_of_isText_eq_false "" hlast]
    exact List.append_nil parts

/-- Text that is appended piece by piece is appended at once. -/
theorem appendText_appendText (text more : String) (parts : List Part) :
    appendText more (appendText text parts) = appendText (text ++ more) parts := by
  by_cases htext : text = ""
  · rw [htext, appendText_empty, String.empty_append]
  rcases exists_eq_concat_sql_or parts with ⟨before, first, rfl⟩ | hlast
  · rw [appendText_concat_sql, appendText_concat_sql, appendText_concat_sql, String.append_assoc]
  · have hboth : text ++ more ≠ "" := fun h => htext (String.append_eq_empty_iff.1 h).1
    rw [appendText_of_isText_eq_false text hlast, appendText_nil htext, appendText_concat_sql,
      appendText_of_isText_eq_false _ hlast, appendText_nil hboth]

/-- Canonical parts stay so when text is appended. -/
theorem Canonical.appendText {parts : List Part} (h : Canonical parts) (text : String) :
    Canonical (Part.appendText text parts) := by
  by_cases htext : text = ""
  · rwa [htext, appendText_empty]
  rcases exists_eq_concat_sql_or parts with ⟨before, first, rfl⟩ | hlast
  · -- The part before the last one is no text, and it stays the neighbour.
    obtain ⟨hbefore, -, hseam⟩ := canonical_concat_iff.1 h
    rw [appendText_concat_sql]
    refine canonical_concat_iff.2 ⟨hbefore, fun heq => ?_, hseam⟩
    exact htext (String.append_eq_empty_iff.1 (Part.sql.inj heq)).2
  · rw [appendText_of_isText_eq_false text hlast, appendText_nil htext]
    refine canonical_concat_iff.2 ⟨h, fun heq => htext (Part.sql.inj heq), fun last hmem => ?_⟩
    simp [hlast last hmem]

/-- A text that fits behind canonical parts becomes a part of its own. -/
theorem appendText_of_canonical {parts : List Part} {text : String}
    (h : Canonical (parts ++ [.sql text])) : appendText text parts = parts ++ [.sql text] := by
  obtain ⟨-, hne, hseam⟩ := canonical_concat_iff.1 h
  have htext : text ≠ "" := fun heq => hne (congrArg Part.sql heq)
  have hlast : ∀ last ∈ parts.getLast?, last.isText = false := fun last hmem =>
    Bool.eq_false_iff.2 fun hlast => hseam last hmem ⟨hlast, rfl⟩
  rw [appendText_of_isText_eq_false text hlast, appendText_nil htext]

/-! ## Texts of parts -/

theorem append_ne_empty_left {text : String} (htext : text ≠ "") (more : String) :
    text ++ more ≠ "" :=
  fun hempty => htext (String.append_eq_empty_iff.1 hempty).1

theorem append_ne_empty_right (text : String) {more : String} (hmore : more ≠ "") :
    text ++ more ≠ "" :=
  fun hempty => hmore (String.append_eq_empty_iff.1 hempty).2

theorem placeholder_ne_empty (dialect : Dialect) (slot : Nat) : dialect.placeholder slot ≠ "" := by
  have hsign : "?" ≠ "" := by decide
  cases dialect with
  | sqlite => exact hsign
  | postgres => exact append_ne_empty_left (by decide) _
  | mysql => exact hsign

theorem likeEscape_ne_empty (dialect : Dialect) : dialect.likeEscape ≠ "" := by
  cases dialect <;> decide

/-- Every part but empty text shows in a statement. -/
theorem sql_render_ne_empty {part : Part} (hpart : part ≠ .sql "") (dialect : Dialect) (slot : Nat) :
    (part.render dialect slot).sql ≠ "" := by
  cases part with
  | sql text => exact fun htext => hpart (congrArg Part.sql htext)
  | param value => exact placeholder_ne_empty dialect slot
  | likeEscape => exact likeEscape_ne_empty dialect
  | inList column ids =>
      -- In each dialect the test ends in a closing parenthesis.
      cases dialect with
      | sqlite => exact append_ne_empty_right _ (by decide)
      | postgres => exact append_ne_empty_right _ (by decide)
      | mysql => exact append_ne_empty_right _ (by decide)

theorem renderAll_sql_eq_empty_iff {parts : List Part} (h : Canonical parts) (dialect : Dialect)
    (slot : Nat) : (renderAll dialect slot parts).sql = "" ↔ parts = [] := by
  cases parts with
  | nil => exact iff_of_true rfl rfl
  | cons part rest =>
      refine iff_of_false (fun hempty => ?_) (List.cons_ne_nil part rest)
      rw [renderAll_cons, Statement.sql_append, String.append_eq_empty_iff] at hempty
      exact sql_render_ne_empty (h.nonempty part List.mem_cons_self) dialect slot hempty.1

end Part

namespace Fragment

/-! ## Appending fragments -/

@[simp] theorem push_empty (fragment : Fragment) : fragment.push empty = fragment := rfl

theorem push_cons (fragment : Fragment) (part : Part) (rest : List Part) :
    fragment.push ⟨part :: rest⟩ = (fragment.pushPart part).push ⟨rest⟩ :=
  rfl

theorem push_append (fragment : Fragment) (parts more : List Part) :
    fragment.push ⟨parts ++ more⟩ = (fragment.push ⟨parts⟩).push ⟨more⟩ :=
  List.foldl_append

theorem pushSql_pushSql (fragment : Fragment) (text more : String) :
    (fragment.pushSql text).pushSql more = fragment.pushSql (text ++ more) :=
  congrArg Fragment.mk (Part.appendText_appendText text more fragment.parts)

@[simp] theorem pushSql_empty (fragment : Fragment) : fragment.pushSql "" = fragment :=
  congrArg Fragment.mk (Part.appendText_empty fragment.parts)

theorem pushPart_of_not_isText (fragment : Fragment) {part : Part} (hpart : part.isText = false) :
    fragment.pushPart part = ⟨fragment.parts ++ [part]⟩ := by
  cases part with
  | sql text => cases hpart
  | param value => rfl
  | likeEscape => rfl
  | inList column ids => rfl

/-- Text may be appended before or after a seam is closed. -/
theorem push_pushSql (fragment other : Fragment) (text : String) :
    fragment.push (other.pushSql text) = (fragment.push other).pushSql text := by
  by_cases htext : text = ""
  · rw [htext, pushSql_empty, pushSql_empty]
  obtain ⟨parts⟩ := other
  rcases Part.exists_eq_concat_sql_or parts with ⟨before, first, rfl⟩ | hlast
  · rw [pushSql, Part.appendText_concat_sql, push_append, push_append]
    exact (pushSql_pushSql _ first text).symm
  · rw [pushSql, Part.appendText_of_isText_eq_false text hlast, Part.appendText_nil htext, push_append]
    rfl

theorem push_pushPart (fragment other : Fragment) (part : Part) :
    fragment.push (other.pushPart part) = (fragment.push other).pushPart part := by
  cases hpart : part.isText with
  | false => rw [pushPart_of_not_isText other hpart, push_append]; rfl
  | true =>
      obtain ⟨text, rfl⟩ := Part.exists_eq_sql hpart
      exact push_pushSql fragment other text

/-- **It does not matter which seam is closed first.** -/
theorem push_push (fragment other last : Fragment) :
    fragment.push (other.push last) = (fragment.push other).push last := by
  obtain ⟨parts⟩ := last
  induction parts generalizing other with
  | nil => rfl
  | cons part rest ih => rw [push_cons, ih, push_pushPart, push_cons]

/-- What is joined behind a fragment may be appended to it first. -/
theorem push_join_cons (fragment first : Fragment) (rest : List Fragment) (separator : String) :
    fragment.push (join (first :: rest) separator) =
      rest.foldl (fun joined next => (joined.pushSql separator).push next) (fragment.push first) := by
  have hfold : ∀ joined : Fragment,
      fragment.push (rest.foldl (fun joined next => (joined.pushSql separator).push next) joined) =
        rest.foldl (fun joined next => (joined.pushSql separator).push next) (fragment.push joined) := by
    induction rest with
    | nil => exact fun _ => rfl
    | cons next more ih =>
        intro joined
        rw [List.foldl_cons, ih, push_push, push_pushSql, List.foldl_cons]
  rw [join, hfold, push_push, push_empty]

/-- **Joining goes through appending lists**, with one more separator. -/
theorem join_append {fragments others : List Fragment} (hfragments : fragments ≠ [])
    (hothers : others ≠ []) (separator : String) :
    join (fragments ++ others) separator =
      ((join fragments separator).pushSql separator).push (join others separator) := by
  obtain ⟨first, rest, rfl⟩ := List.exists_cons_of_ne_nil hfragments
  obtain ⟨other, more, rfl⟩ := List.exists_cons_of_ne_nil hothers
  rw [push_join_cons, List.cons_append, join, List.foldl_append, List.foldl_cons]
  rfl

/-! ## What builders make -/

/-- The fragments that builders make. -/
inductive Built : Fragment → Prop
  | empty : Built empty
  | sql (text : String) : Built (sql text)
  | pushSql {fragment : Fragment} (h : Built fragment) (text : String) :
      Built (fragment.pushSql text)
  | pushParam {fragment : Fragment} (h : Built fragment) (value : Param) :
      Built (fragment.pushParam value)
  | pushLike {fragment : Fragment} (h : Built fragment) (column pattern : String) :
      Built (fragment.pushLike column pattern)
  | pushLikeFolded {fragment : Fragment} (h : Built fragment) (column pattern : String) :
      Built (fragment.pushLikeFolded column pattern)
  | pushInList {fragment : Fragment} (h : Built fragment) (column : String) (ids : List Int) :
      Built (fragment.pushInList column ids)
  | push {fragment other : Fragment} (h : Built fragment) (hother : Built other) :
      Built (fragment.push other)
  | join {fragments : List Fragment} (h : ∀ fragment ∈ fragments, Built fragment)
      (separator : String) : Built (join fragments separator)
  | parenthesized {fragment : Fragment} (h : Built fragment) : Built fragment.parenthesized

/-- Each part that is appended keeps the form. -/
theorem canonical_pushPart {fragment : Fragment} (h : Part.Canonical fragment.parts) (part : Part) :
    Part.Canonical (fragment.pushPart part).parts := by
  cases hpart : part.isText with
  | false =>
      rw [pushPart_of_not_isText fragment hpart]
      refine Part.canonical_concat_iff.2 ⟨h, ?_, fun before _ => ?_⟩
      · rintro rfl
        cases hpart
      · simp [hpart]
  | true =>
      obtain ⟨text, rfl⟩ := Part.exists_eq_sql hpart
      exact h.appendText text

theorem canonical_push {fragment : Fragment} (h : Part.Canonical fragment.parts) (other : Fragment) :
    Part.Canonical (fragment.push other).parts := by
  obtain ⟨parts⟩ := other
  induction parts generalizing fragment with
  | nil => exact h
  | cons part rest ih => exact ih (canonical_pushPart h part)

theorem canonical_join (fragments : List Fragment) (separator : String) :
    Part.Canonical (join fragments separator).parts := by
  cases fragments with
  | nil => exact Part.canonical_nil
  | cons first rest =>
      have hfold : ∀ joined : Fragment, Part.Canonical joined.parts →
          Part.Canonical (rest.foldl (fun joined next => (joined.pushSql separator).push next)
            joined).parts := by
        induction rest with
        | nil => exact fun _ h => h
        | cons next more ih =>
            intro joined h
            exact ih _ (canonical_push (h.appendText separator) next)
      exact hfold _ (canonical_push Part.canonical_nil first)

/-- **Every fragment that is built is in canonical form**, whatever texts it is built from. -/
theorem Built.canonical {fragment : Fragment} (h : Built fragment) : Part.Canonical fragment.parts := by
  induction h with
  | empty => exact Part.canonical_nil
  | sql text => exact Part.canonical_nil.appendText text
  | pushSql _ text ih => exact ih.appendText text
  | pushParam _ value ih => exact canonical_pushPart ih (.param value)
  | pushLike _ column pattern ih =>
      exact canonical_pushPart (canonical_pushPart (ih.appendText _) (.param (.text pattern))) .likeEscape
  | pushLikeFolded _ column pattern ih =>
      have hslot := canonical_pushPart (ih.appendText ("LOWER(" ++ column ++ ") LIKE LOWER("))
        (.param (.text pattern))
      exact canonical_pushPart (hslot.appendText ")") .likeEscape
  | pushInList _ column ids ih => exact canonical_pushPart ih (.inList column ids)
  | push _ _ ih _ => exact canonical_push ih _
  | join _ separator _ => exact canonical_join _ separator
  | parenthesized _ _ =>
      exact (canonical_push (Part.canonical_nil.appendText "(") _).appendText ")"

/-- A fragment in canonical form is what its parts make when they are appended one by one. -/
theorem push_of_canonical {parts more : List Part} (h : Part.Canonical (parts ++ more)) :
    push ⟨parts⟩ ⟨more⟩ = ⟨parts ++ more⟩ := by
  induction more generalizing parts with
  | nil => rw [List.append_nil]; rfl
  | cons part rest ih =>
      rw [List.append_cons] at h ⊢
      -- What stands in front of the other parts is canonical on its own.
      have hpart : Part.Canonical (parts ++ [part]) :=
        ⟨fun other hother => h.nonempty other (List.mem_append_left rest hother),
          h.separated.left_of_append⟩
      have hstep : pushPart ⟨parts⟩ part = ⟨parts ++ [part]⟩ := by
        cases htext : part.isText with
        | false => exact pushPart_of_not_isText _ htext
        | true =>
            obtain ⟨text, rfl⟩ := Part.exists_eq_sql htext
            exact congrArg Fragment.mk (Part.appendText_of_canonical hpart)
      rw [push_cons, hstep, ih h]

theorem empty_push {fragment : Fragment} (h : Part.Canonical fragment.parts) :
    empty.push fragment = fragment := by
  have hparts : Part.Canonical ([] ++ fragment.parts) := h
  exact push_of_canonical hparts

theorem isEmpty_iff {fragment : Fragment} (h : Part.Canonical fragment.parts) (dialect : Dialect) :
    fragment.isEmpty = true ↔ (fragment.render dialect).sql = "" := by
  rw [render, Part.renderAll_sql_eq_empty_iff h]
  exact List.isEmpty_iff

/-- **Fragments are a monoid of canonical forms.**  What is built holds no empty text and no text next
to text, and it is empty just if its statement is, in each dialect.  The empty fragment changes
nothing on either side, it does not matter which seam is closed first, and lists are joined as their
parts are. -/
theorem built_forms_monoid :
    (∀ fragment, Built fragment → Part.Canonical fragment.parts ∧
      ∀ dialect, fragment.isEmpty = true ↔ (fragment.render dialect).sql = "") ∧
    (∀ fragment, Built fragment →
      empty.push fragment = fragment ∧ fragment.push empty = fragment) ∧
    (∀ a b c : Fragment, (a.push b).push c = a.push (b.push c)) ∧
    ∀ (fragments others : List Fragment) (separator : String), fragments ≠ [] → others ≠ [] →
      join (fragments ++ others) separator =
        ((join fragments separator).pushSql separator).push (join others separator) :=
  ⟨fun _ h => ⟨h.canonical, isEmpty_iff h.canonical⟩,
    fun fragment h => ⟨empty_push h.canonical, push_empty fragment⟩,
    fun a b c => (push_push a b c).symm,
    fun _ _ separator hfragments hothers => join_append hfragments hothers separator⟩

/-- A condition in parentheses, and two lists that hold empty fragments: their separators meet. -/
theorem built_forms_monoid_conditions :
    Part.Canonical (((sql "owner = ").pushParam (.int 7)).parenthesized).parts ∧
    empty.push (((sql "owner = ").pushParam (.int 7)).parenthesized) =
      ⟨[.sql "(owner = ", .param (.int 7), .sql ")"]⟩ ∧
    join ([empty, sql "a"] ++ [sql "", (sql "b").pushLike "name" "x%"]) " AND " =
      ⟨[.sql " AND a AND  AND bname LIKE ", .param (.text "x%"), .likeEscape]⟩ := by
  obtain ⟨hcanonical, hempty, -, hjoin⟩ := built_forms_monoid
  have hbuilt : Built (((sql "owner = ").pushParam (.int 7)).parenthesized) :=
    ((Built.sql "owner = ").pushParam (.int 7)).parenthesized
  refine ⟨(hcanonical _ hbuilt).1, (hempty _ hbuilt).1.trans (by decide), ?_⟩
  rw [hjoin _ _ " AND " (List.cons_ne_nil _ _) (List.cons_ne_nil _ _)]
  decide

end Fragment
end Sql
end ChannelCatalog
