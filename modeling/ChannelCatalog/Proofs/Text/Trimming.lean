import ChannelCatalog.Text.CharClass
import Mathlib.Data.List.DropRight
import Mathlib.Data.List.TakeWhile

/-!
# Texts without the blanks at their ends

A text is made of blanks, of a text that neither begins nor ends with one, and of further blanks
(`Text.Trims`).  There is one such text in the middle, and it is what trimming leaves.
-/

namespace ChannelCatalog
namespace Text

/-- What is left of a text without the blanks at both ends. -/
structure Trims (text body : List Char) : Prop where
  surrounded : ∃ before after, text = before ++ (body ++ after) ∧
    (∀ c ∈ before, isBlank c = true) ∧ ∀ c ∈ after, isBlank c = true
  head : ∀ c ∈ body.head?, isBlank c = false
  last : ∀ c ∈ body.getLast?, isBlank c = false

theorem trimBlanks_eq_rdropWhile (text : List Char) :
    trimBlanks text = (text.dropWhile isBlank).rdropWhile isBlank :=
  rfl

theorem dropWhile_of_head? {text : List Char} (h : ∀ c ∈ text.head?, isBlank c = false) :
    text.dropWhile isBlank = text := by
  cases text with
  | nil => rfl
  | cons c rest => exact List.dropWhile_cons_of_neg (by simp [h c rfl])

theorem rdropWhile_append {body after : List Char} (h : ∀ c ∈ body.getLast?, isBlank c = false)
    (hafter : ∀ c ∈ after, isBlank c = true) : (body ++ after).rdropWhile isBlank = body := by
  have hreverse : body.reverse.dropWhile isBlank = body.reverse :=
    dropWhile_of_head? (by rwa [List.head?_reverse])
  rw [List.rdropWhile, List.reverse_append,
    List.dropWhile_append_of_pos fun c hc => hafter c (List.mem_reverse.1 hc), hreverse,
    List.reverse_reverse]

theorem Trims.trimBlanks_eq {text body : List Char} (h : Trims text body) : trimBlanks text = body := by
  obtain ⟨⟨before, after, rfl, hbefore, hafter⟩, hhead, hlast⟩ := h
  rw [trimBlanks_eq_rdropWhile, List.dropWhile_append_of_pos hbefore]
  cases body with
  | nil =>
      -- Nothing but blanks is left, and the first pass takes them all.
      rw [List.nil_append, List.dropWhile_eq_nil_iff.2 hafter]
      rfl
  | cons c rest =>
      have hfirst : (c :: rest ++ after).dropWhile isBlank = c :: rest ++ after :=
        dropWhile_of_head? hhead
      rw [hfirst, rdropWhile_append hlast hafter]

theorem not_isBlank_of_mem_head? (text : List Char) :
    ∀ c ∈ (text.dropWhile isBlank).head?, isBlank c = false := by
  intro c hc
  have hhead := List.head?_dropWhile_not isBlank text
  rwa [Option.mem_def.1 hc] at hhead

theorem trims_trimBlanks (text : List Char) : Trims text (trimBlanks text) := by
  rw [trimBlanks_eq_rdropWhile]
  refine ⟨⟨text.takeWhile isBlank, (text.dropWhile isBlank).rtakeWhile isBlank, ?_,
    fun c => List.mem_takeWhile_imp, fun c => List.mem_rtakeWhile_imp⟩, fun c hc => ?_, fun c hc => ?_⟩
  · rw [List.rdropWhile_append_rtakeWhile, List.takeWhile_append_dropWhile]
  · -- What is left begins as the text does after the first pass.
    obtain ⟨after, hafter⟩ := List.rdropWhile_prefix isBlank (text.dropWhile isBlank)
    refine not_isBlank_of_mem_head? text c ?_
    rw [← hafter, List.head?_append, Option.mem_def.1 hc]
    rfl
  · rw [List.rdropWhile, List.getLast?_reverse] at hc
    exact not_isBlank_of_mem_head? _ c hc

/-- **Trimming leaves the text between the blanks.** -/
theorem trimBlanks_eq_iff {text body : List Char} : trimBlanks text = body ↔ Trims text body :=
  ⟨fun h => h ▸ trims_trimBlanks text, Trims.trimBlanks_eq⟩

end Text
end ChannelCatalog
