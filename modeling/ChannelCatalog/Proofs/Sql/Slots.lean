import ChannelCatalog.Sql.Fragment
import Mathlib.Data.List.TakeWhile

/-!
# The slots of a statement

The placeholders in the text of a statement are its slots, numbered from one where the dialect
numbers them.  They are found by reading the text, so what stands between them must not look like a
placeholder, nor like more digits of one (`Fragment.IsPlain`).  Then there is one slot for each value,
in the order of the values.
-/

namespace ChannelCatalog
namespace Sql

/-! ## Reading placeholders -/

namespace Dialect

/-- The character that placeholders begin with. -/
def marker : Dialect → Char
  | sqlite | mysql => '?'
  | postgres => '$'

/-- What belongs to a placeholder of the text that follows its marker. -/
def numeral : Dialect → List Char → List Char
  | sqlite, _ | mysql, _ => []
  | postgres, rest => rest.takeWhile Char.isDigit

/-- The placeholders in a text, from left to right. -/
def placeholdersIn (dialect : Dialect) : List Char → List String
  | [] => []
  | c :: rest =>
    if c = dialect.marker then
      String.ofList (c :: dialect.numeral rest) :: placeholdersIn dialect rest
    else placeholdersIn dialect rest

end Dialect

/-- The slots of a statement are as many as its values; if they are numbered, they are numbered in
their order, from one. -/
def Statement.LinesUp (statement : Statement) : Dialect → Prop
  | .sqlite | .mysql => statement.sql.toList.count '?' = statement.params.length
  | .postgres =>
    Dialect.postgres.placeholdersIn statement.sql.toList =
      (List.range' 1 statement.params.length).map fun slot => "$" ++ toString slot

/-- A text that does not go on with the digits of a number before it. -/
def NoDigitFirst (text : List Char) : Prop :=
  ∀ c ∈ text.head?, c.isDigit = false

instance : (text : List Char) → Decidable (NoDigitFirst text)
  | [] => isTrue (by simp [NoDigitFirst])
  | c :: _ => decidable_of_iff (c.isDigit = false) (by simp [NoDigitFirst])

theorem NoDigitFirst.append {before after : List Char} (hbefore : NoDigitFirst before)
    (hafter : NoDigitFirst after) : NoDigitFirst (before ++ after) := by
  cases before with
  | nil => exact hafter
  | cons c rest => exact hbefore

namespace Dialect

variable (dialect : Dialect)

theorem numeral_append (before : List Char) {after : List Char} (hafter : NoDigitFirst after) :
    dialect.numeral (before ++ after) = dialect.numeral before := by
  have hdigits : (before ++ after).takeWhile Char.isDigit = before.takeWhile Char.isDigit := by
    induction before with
    | nil =>
        cases after with
        | nil => rfl
        | cons c rest => rw [List.nil_append, List.takeWhile_cons_of_neg (by simp [hafter c rfl])]; rfl
    | cons c rest ih => rw [List.cons_append, List.takeWhile_cons, List.takeWhile_cons, ih]
  cases dialect with
  | sqlite => rfl
  | mysql => rfl
  | postgres => exact hdigits

theorem placeholdersIn_append (before : List Char) {after : List Char}
    (hafter : NoDigitFirst after) :
    dialect.placeholdersIn (before ++ after) =
      dialect.placeholdersIn before ++ dialect.placeholdersIn after := by
  induction before with
  | nil => rfl
  | cons c rest ih =>
      -- A marker reads on into what is appended, but finds no digits there.
      rw [List.cons_append, placeholdersIn, placeholdersIn, numeral_append dialect rest hafter, ih]
      split <;> rfl

theorem placeholdersIn_eq_nil {text : List Char} (h : ∀ c ∈ text, c ≠ dialect.marker) :
    dialect.placeholdersIn text = [] := by
  induction text with
  | nil => rfl
  | cons c rest ih =>
      rw [placeholdersIn, if_neg (h c List.mem_cons_self)]
      exact ih fun d hd => h d (List.mem_cons_of_mem c hd)

theorem isDigit_of_mem_toString {slot : Nat} {c : Char} (h : c ∈ (toString slot).toList) :
    c.isDigit = true := by
  rw [Nat.toString_eq_repr, Nat.toList_repr] at h
  exact Nat.isDigit_of_mem_toDigits (by decide) (by decide) h

/-- A placeholder is read as itself. -/
theorem placeholdersIn_placeholder (slot : Nat) :
    dialect.placeholdersIn (dialect.placeholder slot).toList = [dialect.placeholder slot] := by
  cases dialect with
  | sqlite => exact (by decide : sqlite.placeholdersIn "?".toList = ["?"])
  | mysql => exact (by decide : mysql.placeholdersIn "?".toList = ["?"])
  | postgres =>
      have hdigits : (toString slot).toList.takeWhile Char.isDigit = (toString slot).toList :=
        List.takeWhile_eq_self_iff.2 fun c hc => isDigit_of_mem_toString hc
      have hnone : postgres.placeholdersIn (toString slot).toList = [] := by
        refine placeholdersIn_eq_nil postgres fun c hc hmarker => ?_
        have hdigit := isDigit_of_mem_toString hc
        rw [hmarker] at hdigit
        exact Bool.false_ne_true hdigit
      have htext : (postgres.placeholder slot).toList = '$' :: (toString slot).toList := by
        simp [placeholder]
      rw [htext, placeholdersIn, hnone, numeral, hdigits, ← htext, String.ofList_toList]
      rfl

theorem noDigitFirst_placeholder (slot : Nat) :
    NoDigitFirst (dialect.placeholder slot).toList := by
  cases dialect with
  | sqlite => exact (by decide : NoDigitFirst "?".toList)
  | mysql => exact (by decide : NoDigitFirst "?".toList)
  | postgres =>
      intro c hc
      simp only [placeholder, String.toList_append] at hc
      cases hc
      rfl

end Dialect

/-! ## Texts that are no part of a placeholder -/

/-- A text without markers that does not begin with a digit. -/
def IsPlainText (text : String) : Prop :=
  (∀ c ∈ text.toList, c ≠ '?' ∧ c ≠ '$') ∧ NoDigitFirst text.toList

instance (text : String) : Decidable (IsPlainText text) :=
  -- Only the characters of the text are looked at.
  have := List.decidableBAll (fun c => c ≠ '?' ∧ c ≠ '$') text.toList
  inferInstanceAs (Decidable (_ ∧ _))

theorem IsPlainText.append {before after : String} (hbefore : IsPlainText before)
    (hafter : IsPlainText after) : IsPlainText (before ++ after) := by
  rw [IsPlainText, String.toList_append]
  refine ⟨fun c hc => ?_, hbefore.2.append hafter.2⟩
  rcases List.mem_append.1 hc with hc | hc
  · exact hbefore.1 c hc
  · exact hafter.1 c hc

theorem IsPlainText.placeholdersIn_eq_nil {text : String} (h : IsPlainText text)
    (dialect : Dialect) : dialect.placeholdersIn text.toList = [] := by
  refine dialect.placeholdersIn_eq_nil fun c hc hmarker => ?_
  cases dialect with
  | sqlite => exact (h.1 c hc).1 hmarker
  | mysql => exact (h.1 c hc).1 hmarker
  | postgres => exact (h.1 c hc).2 hmarker

/-- The texts of a part are plain; its data may be anything. -/
def Part.IsPlain : Part → Prop
  | .sql text => IsPlainText text
  | .inList column _ => IsPlainText column
  | .param _ | .likeEscape => True

/-- The texts of a fragment are plain; its data may be anything. -/
def Fragment.IsPlain (fragment : Fragment) : Prop :=
  ∀ part ∈ fragment.parts, part.IsPlain

/-! ## The slots of a statement -/

/-- The slots of a statement whose first slot has the given number, and what may come before it. -/
structure Statement.LinesUpFrom (statement : Statement) (dialect : Dialect) (slot : Nat) :
    Prop where
  placeholders : dialect.placeholdersIn statement.sql.toList =
    (List.range' slot statement.params.length).map dialect.placeholder
  noDigitFirst : NoDigitFirst statement.sql.toList

theorem Statement.LinesUpFrom.append {first next : Statement} {dialect : Dialect} {slot : Nat}
    (hfirst : first.LinesUpFrom dialect slot)
    (hnext : next.LinesUpFrom dialect (slot + first.params.length)) :
    Statement.LinesUpFrom ⟨first.sql ++ next.sql, first.params ++ next.params⟩ dialect slot := by
  constructor
  · rw [String.toList_append, dialect.placeholdersIn_append _ hnext.noDigitFirst,
      hfirst.placeholders, hnext.placeholders, ← List.map_append, List.range'_append_1,
      List.length_append]
  · rw [String.toList_append]
    exact hfirst.noDigitFirst.append hnext.noDigitFirst

theorem IsPlainText.linesUpFrom {text : String} (h : IsPlainText text) (dialect : Dialect)
    (slot : Nat) : Statement.LinesUpFrom ⟨text, []⟩ dialect slot :=
  ⟨h.placeholdersIn_eq_nil dialect, h.2⟩

theorem placeholder_linesUpFrom (dialect : Dialect) (slot : Nat) (value : Param) :
    Statement.LinesUpFrom ⟨dialect.placeholder slot, [value]⟩ dialect slot :=
  ⟨dialect.placeholdersIn_placeholder slot, dialect.noDigitFirst_placeholder slot⟩

/-- Placeholders between commas, one for each value. -/
theorem intercalate_linesUpFrom (dialect : Dialect) (slot : Nat) (values : List Param) :
    Statement.LinesUpFrom
      ⟨String.intercalate "," ((List.range' slot values.length).map dialect.placeholder), values⟩
      dialect slot := by
  induction values generalizing slot with
  | nil => exact (by decide : IsPlainText "").linesUpFrom dialect slot
  | cons value rest ih =>
      have hfirst := placeholder_linesUpFrom dialect slot value
      cases rest with
      | nil => exact hfirst
      | cons next more =>
          have hcomma := (by decide : IsPlainText ",").linesUpFrom dialect (slot + 1)
          simp only [List.length_cons, List.range'_succ, List.map_cons,
            String.intercalate_cons_cons]
          exact (hfirst.append hcomma).append (ih (slot + 1))

theorem Statement.LinesUpFrom.between {statement : Statement} {dialect : Dialect} {slot : Nat}
    (h : statement.LinesUpFrom dialect slot) {before after : String} (hbefore : IsPlainText before)
    (hafter : IsPlainText after) :
    Statement.LinesUpFrom ⟨before ++ statement.sql ++ after, statement.params⟩ dialect slot := by
  have hall := ((hbefore.linesUpFrom dialect slot).append h).append
    (hafter.linesUpFrom dialect (slot + statement.params.length))
  rwa [List.append_nil] at hall

theorem inList_linesUpFrom (dialect : Dialect) (slot : Nat) {column : String}
    (hcolumn : IsPlainText column) (ids : List Int) :
    (dialect.inList slot column ids).LinesUpFrom dialect slot := by
  have hclose : IsPlainText ")" := by decide
  cases dialect with
  | sqlite =>
      have hopen : IsPlainText " IN rarray(" := by decide
      exact (placeholder_linesUpFrom .sqlite slot _).between (hcolumn.append hopen) hclose
  | postgres =>
      have hopen : IsPlainText " = ANY(" := by decide
      exact (placeholder_linesUpFrom .postgres slot _).between (hcolumn.append hopen) hclose
  | mysql =>
      have hopen : IsPlainText " IN (" := by decide
      have hslots := intercalate_linesUpFrom .mysql slot (ids.map Param.int)
      rw [List.length_map, List.range'_eq_map_range, List.map_map] at hslots
      exact hslots.between (hcolumn.append hopen) hclose

theorem Part.IsPlain.render_linesUpFrom {part : Part} (h : part.IsPlain) (dialect : Dialect)
    (slot : Nat) : (part.render dialect slot).LinesUpFrom dialect slot := by
  cases part with
  | sql text => exact IsPlainText.linesUpFrom h dialect slot
  | param value => exact placeholder_linesUpFrom dialect slot value
  | inList column ids => exact inList_linesUpFrom dialect slot h ids
  | likeEscape =>
      have hescape : IsPlainText dialect.likeEscape := by cases dialect <;> decide
      exact hescape.linesUpFrom dialect slot

theorem renderAll_linesUpFrom {parts : List Part} (h : ∀ part ∈ parts, part.IsPlain)
    (dialect : Dialect) (slot : Nat) :
    (Part.renderAll dialect slot parts).LinesUpFrom dialect slot := by
  induction parts generalizing slot with
  | nil => exact (by decide : IsPlainText "").linesUpFrom dialect slot
  | cons part rest ih =>
      have hfirst := (h part List.mem_cons_self).render_linesUpFrom dialect slot
      exact hfirst.append (ih (fun other hother => h other (List.mem_cons_of_mem part hother)) _)

theorem length_placeholdersIn {dialect : Dialect} (text : List Char) :
    (dialect.placeholdersIn text).length = text.count dialect.marker := by
  induction text with
  | nil => rfl
  | cons c rest ih =>
      rw [Dialect.placeholdersIn, List.count_cons, ← ih]
      by_cases hc : c = dialect.marker
      · simp [hc]
      · simp [hc]

/-- **Slots and values of a rendered fragment correspond.** -/
theorem Fragment.IsPlain.render_linesUp {fragment : Fragment} (h : fragment.IsPlain)
    (dialect : Dialect) : (fragment.render dialect).LinesUp dialect := by
  have hslots := (renderAll_linesUpFrom h dialect 1).placeholders
  have hcount := congrArg List.length hslots
  rw [length_placeholdersIn, List.length_map, List.length_range'] at hcount
  cases dialect with
  | sqlite => exact hcount
  | mysql => exact hcount
  | postgres => exact hslots

end Sql
end ChannelCatalog
