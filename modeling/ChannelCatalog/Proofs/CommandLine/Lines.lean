import ChannelCatalog.CommandLine.Output
import Mathlib.Data.List.Basic

/-!
# Lines that are read back

Rows are written as lines of fields with tabs between them, and nothing is escaped.  A reader that
divides the text at line breaks and tabs finds all pieces of what was written
(`splitOn_intercalate_eq_flatMap`).  So it finds one line a row and five fields a line exactly if no
text that is written holds a tab or a line break, and then it finds the rows.
-/

namespace ChannelCatalog

/-- The texts that a row holds; one that is absent is none. -/
def Row.texts (row : Row) : List String :=
  [row.channelName, row.channelOwner] ++ row.propertyName.toList ++ row.propertyValue.toList ++
    row.propertyOwner.toList

/-- No text of the row holds a separator of the output. -/
def Row.IsClean (row : Row) : Prop :=
  ∀ text ∈ row.texts, '\t' ∉ text.toList ∧ '\n' ∉ text.toList

instance (row : Row) : Decidable row.IsClean :=
  inferInstanceAs (Decidable (∀ text ∈ row.texts, '\t' ∉ text.toList ∧ '\n' ∉ text.toList))

namespace CommandLine

/-- The lines of a text up to its last line break, each without the line break at its end. -/
def endedLines (text : List Char) : List (List Char) :=
  (text.splitOn '\n').dropLast

/-- The fields of a line. -/
def fieldsOf (line : List Char) : List String :=
  (line.splitOn '\t').map String.ofList

/-- What is found in a text: the fields of each of its lines. -/
def readRows (text : String) : List (List String) :=
  (endedLines text.toList).map fieldsOf

/-! ## Dividing what was put together -/

section Dividing

variable {α : Type} (separator : α) {parts : List (List α)}

/-- Only a separator is put between the parts. -/
theorem notMem_intercalate_iff {a : α} (ha : a ≠ separator) :
    a ∉ [separator].intercalate parts ↔ ∀ part ∈ parts, a ∉ part := by
  induction parts with
  | nil => simp
  | cons part rest ih =>
      cases rest with
      | nil => simp
      | cons next more =>
          rw [List.intercalate_cons_cons, List.mem_append, List.mem_append, List.mem_singleton,
            List.forall_mem_cons, ← ih]
          simp [ha]

/-- Parts that each end with the separator are parts put together, with one more separator. -/
theorem flatMap_append_eq_intercalate (hparts : parts ≠ []) :
    parts.flatMap (· ++ [separator]) = [separator].intercalate parts ++ [separator] := by
  induction parts with
  | nil => exact absurd rfl hparts
  | cons part rest ih =>
      cases rest with
      | nil => rw [List.flatMap_singleton, List.intercalate_singleton]
      | cons next more =>
          rw [List.flatMap_cons, ih (List.cons_ne_nil next more), List.intercalate_cons_cons]
          simp only [List.append_assoc]

variable [DecidableEq α]

/-- **Dividing goes through putting together**: all pieces of the parts are found. -/
theorem splitOn_intercalate_eq_flatMap (hparts : parts ≠ []) :
    ([separator].intercalate parts).splitOn separator = parts.flatMap (List.splitOn separator) := by
  induction parts with
  | nil => exact absurd rfl hparts
  | cons part rest ih =>
      cases rest with
      | nil => rw [List.intercalate_singleton, List.flatMap_singleton]
      | cons next more =>
          rw [List.intercalate_cons_cons, List.append_assoc, List.singleton_append,
            List.splitOn_append_cons_self, ih (List.cons_ne_nil next more)]
          rfl

theorem flatMap_splitOn_of_notMem (h : ∀ part ∈ parts, separator ∉ part) :
    parts.flatMap (List.splitOn separator) = parts := by
  induction parts with
  | nil => rfl
  | cons part rest ih =>
      obtain ⟨hpart, hrest⟩ := List.forall_mem_cons.1 h
      rw [List.flatMap_cons, List.splitOn_eq_singleton hpart, ih hrest]
      rfl

theorem length_splitOn_pos (part : List α) : 0 < (part.splitOn separator).length :=
  List.length_pos_iff.2 (List.splitOn_ne_nil separator part)

/-- A separator in a part divides it. -/
theorem one_lt_length_splitOn {part : List α} (h : separator ∈ part) :
    1 < (part.splitOn separator).length := by
  obtain ⟨before, after, rfl⟩ := List.append_of_mem h
  have hbefore := length_splitOn_pos separator before
  have hafter := length_splitOn_pos separator after
  rw [List.splitOn_append_cons_self, List.length_append]
  omega

theorem length_le_flatMap_splitOn (parts : List (List α)) :
    parts.length ≤ (parts.flatMap (List.splitOn separator)).length := by
  induction parts with
  | nil => exact Nat.le_refl _
  | cons part rest ih =>
      have hpart := length_splitOn_pos separator part
      rw [List.flatMap_cons, List.length_append, List.length_cons]
      omega

/-- There are as many pieces as parts only if no part is divided, since none makes up for another. -/
theorem length_flatMap_splitOn_eq_iff :
    (parts.flatMap (List.splitOn separator)).length = parts.length ↔
      ∀ part ∈ parts, separator ∉ part := by
  refine ⟨fun hlength => ?_, fun h => by rw [flatMap_splitOn_of_notMem separator h]⟩
  induction parts with
  | nil => exact List.forall_mem_nil _
  | cons part rest ih =>
      have hpart := length_splitOn_pos separator part
      have hrest := length_le_flatMap_splitOn separator rest
      rw [List.flatMap_cons, List.length_append, List.length_cons] at hlength
      refine List.forall_mem_cons.2 ⟨fun hmem => ?_, ih (by omega)⟩
      have hdivided := one_lt_length_splitOn separator hmem
      omega

/-- Nothing is lost when a part is divided. -/
theorem flatMap_append_splitOn (part : List α) :
    (part.splitOn separator).flatMap (· ++ [separator]) = part ++ [separator] := by
  rw [flatMap_append_eq_intercalate _ (List.splitOn_ne_nil separator part), List.intercalate_splitOn]

end Dividing

/-! ## The text of rows -/

/-- The line of a row without the line break at its end. -/
def lineBody (row : Row) : List Char :=
  ['\t'].intercalate ((rowFields row).map String.toList)

theorem toList_rowsText (rows : List Row) :
    (rowsText rows).toList = (rows.map lineBody).flatMap (· ++ ['\n']) := by
  have hline : ∀ row, (rowLine row).toList = lineBody row ++ ['\n'] := by
    intro row
    rw [rowLine, String.toList_append, String.toList_intercalate]
    rfl
  rw [rowsText, String.toList_join, List.flatMap_map, List.flatMap_map]
  exact List.flatMap_congr fun row _ => hline row

theorem endedLines_append (line rest : List Char) :
    endedLines (line ++ '\n' :: rest) = line.splitOn '\n' ++ endedLines rest := by
  rw [endedLines, List.splitOn_append_cons_self,
    List.dropLast_append_of_ne_nil (List.splitOn_ne_nil '\n' rest)]
  rfl

/-- The lines that are found are the pieces of the lines that were written. -/
theorem endedLines_flatMap (lines : List (List Char)) :
    endedLines (lines.flatMap (· ++ ['\n'])) = lines.flatMap (List.splitOn '\n') := by
  induction lines with
  | nil => rfl
  | cons line rest ih =>
      rw [List.flatMap_cons, List.append_assoc, List.singleton_append, endedLines_append, ih]
      rfl

/-- All of the text of rows is in its lines. -/
theorem flatMap_endedLines_rowsText (rows : List Row) :
    (endedLines (rowsText rows).toList).flatMap (· ++ ['\n']) = (rowsText rows).toList := by
  rw [toList_rowsText, endedLines_flatMap, List.flatMap_assoc]
  exact List.flatMap_congr fun line _ => flatMap_append_splitOn '\n' line

/-- The fields that are found are the pieces of the fields that were written. -/
theorem fieldsOf_lineBody (row : Row) :
    fieldsOf (lineBody row) =
      (((rowFields row).map String.toList).flatMap (List.splitOn '\t')).map String.ofList := by
  have hfields : (rowFields row).map String.toList ≠ [] := List.cons_ne_nil _ _
  rw [fieldsOf, lineBody, splitOn_intercalate_eq_flatMap _ hfields]

/-- An absent text is written as an empty one, which holds no separator. -/
theorem forall_mem_rowFields_iff {row : Row} {c : Char} :
    (∀ field ∈ (rowFields row).map String.toList, c ∉ field) ↔
      ∀ text ∈ row.texts, c ∉ text.toList := by
  have habsent : ∀ text : Option String,
      c ∉ (text.getD "").toList ↔ ∀ present ∈ text.toList, c ∉ present.toList := by
    intro text
    cases text <;> simp
  simp only [rowFields, Row.texts, List.forall_mem_map, List.forall_mem_append, List.forall_mem_cons,
    habsent]
  simp [and_assoc]

/-- **A row is found in its line exactly if none of its texts holds a tab.** -/
theorem length_fieldsOf_lineBody_iff {row : Row} :
    (fieldsOf (lineBody row)).length = 5 ↔ ∀ text ∈ row.texts, '\t' ∉ text.toList := by
  rw [fieldsOf_lineBody, List.length_map, ← forall_mem_rowFields_iff]
  exact length_flatMap_splitOn_eq_iff '\t'

theorem fieldsOf_lineBody_of_notMem {row : Row} (h : ∀ text ∈ row.texts, '\t' ∉ text.toList) :
    fieldsOf (lineBody row) = rowFields row := by
  rw [fieldsOf_lineBody, flatMap_splitOn_of_notMem '\t' (forall_mem_rowFields_iff.2 h), List.map_map]
  exact List.map_id'' (fun field => String.ofList_toList) (rowFields row)

theorem notMem_lineBody_iff {row : Row} :
    '\n' ∉ lineBody row ↔ ∀ text ∈ row.texts, '\n' ∉ text.toList := by
  rw [lineBody, notMem_intercalate_iff '\t' (by decide), forall_mem_rowFields_iff]

/-- **There is one line a row exactly if no text of a row holds a line break.** -/
theorem length_readRows_iff {rows : List Row} :
    (readRows (rowsText rows)).length = rows.length ↔
      ∀ row ∈ rows, ∀ text ∈ row.texts, '\n' ∉ text.toList := by
  have hbodies : (rows.map lineBody).length = rows.length := List.length_map lineBody
  rw [readRows, List.length_map, toList_rowsText, endedLines_flatMap, ← hbodies,
    length_flatMap_splitOn_eq_iff, List.forall_mem_map]
  exact forall₂_congr fun row _ => notMem_lineBody_iff

theorem readRows_of_notMem {rows : List Row}
    (h : ∀ row ∈ rows, ∀ text ∈ row.texts, '\n' ∉ text.toList) :
    readRows (rowsText rows) = rows.map fun row => fieldsOf (lineBody row) := by
  have hbodies : ∀ body ∈ rows.map lineBody, '\n' ∉ body :=
    List.forall_mem_map.2 fun row hrow => notMem_lineBody_iff.2 (h row hrow)
  rw [readRows, toList_rowsText, endedLines_flatMap, flatMap_splitOn_of_notMem '\n' hbodies,
    List.map_map]
  rfl

theorem isClean_iff {row : Row} :
    row.IsClean ↔ (∀ text ∈ row.texts, '\n' ∉ text.toList) ∧
      ∀ text ∈ row.texts, '\t' ∉ text.toList :=
  forall₂_and.trans and_comm

/-- **The layout of a text of rows shows exactly if they are clean.** -/
theorem layout_iff {rows : List Row} :
    ((readRows (rowsText rows)).length = rows.length ∧
        ∀ fields ∈ readRows (rowsText rows), fields.length = 5) ↔
      ∀ row ∈ rows, row.IsClean := by
  constructor
  · rintro ⟨hcount, hfive⟩ row hrow
    -- Only when the lines are those of the rows can their fields be counted row by row.
    have hbreaks := length_readRows_iff.1 hcount
    rw [readRows_of_notMem hbreaks, List.forall_mem_map] at hfive
    exact isClean_iff.2 ⟨hbreaks row hrow, length_fieldsOf_lineBody_iff.1 (hfive row hrow)⟩
  · intro h
    have hbreaks : ∀ row ∈ rows, ∀ text ∈ row.texts, '\n' ∉ text.toList :=
      fun row hrow => (isClean_iff.1 (h row hrow)).1
    refine ⟨length_readRows_iff.2 hbreaks, ?_⟩
    rw [readRows_of_notMem hbreaks, List.forall_mem_map]
    exact fun row hrow => length_fieldsOf_lineBody_iff.2 (isClean_iff.1 (h row hrow)).2

theorem readRows_rowsText {rows : List Row} (h : ∀ row ∈ rows, row.IsClean) :
    readRows (rowsText rows) = rows.map rowFields := by
  rw [readRows_of_notMem fun row hrow => (isClean_iff.1 (h row hrow)).1]
  exact List.map_congr_left fun row hrow =>
    fieldsOf_lineBody_of_notMem (isClean_iff.1 (h row hrow)).2

theorem writeRows_eq_ok {sink : Sink} {rows : List Row} {text : String}
    (h : writeRows sink rows = .ok text) : text = rowsText rows := by
  unfold writeRows at h
  split at h
  · exact (Except.ok.inj h).symm
  · cases h

/-- **Rows are read back from what is written of them where that can be.**  All that is written stands in
lines.  There is one line a row with five fields a line exactly if no text of a row holds a tab or a
line break; then the fields of a line are the texts of its row, where an absent one is empty. -/
theorem writeRows_read_back :
    (∀ rows, ∃ text, writeRows none rows = .ok text) ∧
    ∀ sink rows text, writeRows sink rows = .ok text →
      (endedLines text.toList).flatMap (· ++ ['\n']) = text.toList ∧
      (((readRows text).length = rows.length ∧ ∀ fields ∈ readRows text, fields.length = 5) ↔
        ∀ row ∈ rows, row.IsClean) ∧
      ((∀ row ∈ rows, row.IsClean) → readRows text = rows.map fun row =>
        [row.channelName, row.channelOwner, row.propertyName.getD "", row.propertyValue.getD "",
          row.propertyOwner.getD ""]) := by
  refine ⟨fun rows => ⟨rowsText rows, rfl⟩, fun sink rows text h => ?_⟩
  rw [writeRows_eq_ok h]
  exact ⟨flatMap_endedLines_rowsText rows, layout_iff, readRows_rowsText⟩

/-- Two rows, one with nothing after its owner and one with a carriage return in a value. -/
theorem writeRows_read_back_missing :
    writeRows (some 40) [⟨"a", "", none, none, none⟩, ⟨"b", "o", some "p", some "v\r", some "q"⟩] =
        .ok "a\t\t\t\t\nb\to\tp\tv\r\tq\n" ∧
      readRows "a\t\t\t\t\nb\to\tp\tv\r\tq\n" =
        [["a", "", "", "", ""], ["b", "o", "p", "v\r", "q"]] := by
  have hwritten : writeRows (some 40)
      [⟨"a", "", none, none, none⟩, ⟨"b", "o", some "p", some "v\r", some "q"⟩] =
        .ok "a\t\t\t\t\nb\to\tp\tv\r\tq\n" := by decide +kernel
  exact ⟨hwritten, (writeRows_read_back.2 _ _ _ hwritten).2.2 (by decide)⟩

end CommandLine
end ChannelCatalog
