import ChannelCatalog.Proofs.Text.Settling
import Mathlib.Data.String.Basic

/-!
# Texts whose small form is ASCII

Two characters beyond ASCII have ASCII letters in their small forms: the Kelvin sign becomes a `k`,
and the dotted capital I becomes an `i` with a mark after it.  So a fixed text of other ASCII
characters is recognised in any letter case by the smaller folding as well as by the full one.
-/

namespace ChannelCatalog
namespace Text

/-! ## The smaller folding by itself -/

theorem toLower_toLower (c : Char) : c.toLower.toLower = c.toLower :=
  toLower_cases (motive := fun _ small => small.toLower = small) (fun _ hsame => hsame)
    (by decide) c

@[simp] theorem asciiLower_asciiLower (text : String) :
    asciiLower (asciiLower text) = asciiLower text := by
  rw [asciiLower, toList_asciiLower, List.map_map, asciiLower]
  exact congrArg String.ofList (List.map_congr_left fun c _ => toLower_toLower c)

theorem utf8Size_toLower (c : Char) : c.toLower.utf8Size = c.utf8Size :=
  toLower_cases (motive := fun c small => small.utf8Size = c.utf8Size) (fun _ _ => rfl)
    (by decide) c

/-- The smaller folding keeps the size of a text. -/
theorem utf8ByteSize_asciiLower (text : String) :
    (asciiLower text).utf8ByteSize = text.utf8ByteSize := by
  have hlist : ∀ chars : List Char,
      String.utf8Len (chars.map Char.toLower) = String.utf8Len chars := by
    intro chars
    induction chars with
    | nil => rfl
    | cons c rest ih => simp [ih, utf8Size_toLower]
  rw [asciiLower, String.utf8ByteSize_ofList, hlist, ← String.utf8ByteSize_ofList,
    String.ofList_toList]

/-! ## Recognising a text -/

/-- An ASCII character that no character beyond ASCII becomes. -/
def IsTelling (c : Char) : Prop :=
  c.toNat < 0x80 ∧ c ≠ 'k'

instance (c : Char) : Decidable (IsTelling c) :=
  inferInstanceAs (Decidable (_ ∧ _))

/-- Only two runs of the table lead to ASCII: the letters `A` to `Z`, and the Kelvin sign. -/
theorem eq_or_eq_of_small_lt :
    ∀ run ∈ caseRuns, run.small < 0x80 →
      run = ⟨0x41, 0x5A, 1, 0x61⟩ ∨ run = ⟨0x212A, 0x212A, 1, 0x6B⟩ := by
  decide +kernel

/-- A character that the table takes to a telling one is that one or its capital. -/
theorem toLower_eq_of_isTelling {c : Char} (h : IsTelling (smallChar c)) :
    c.toLower = smallChar c := by
  have hletters : ∀ k < 26,
      (Char.ofNat (0x41 + k)).toLower = smallChar (Char.ofNat (0x41 + k)) := by decide
  rcases smallChar_eq_self_or c with hsame | ⟨run, hrun, ⟨hfirst, hlast, -⟩, hsmall⟩
  · rcases toLower_eq_self_or c with hlower | ⟨k, hk, rfl⟩
    · rw [hlower, hsame]
    · exact hletters k hk
  · obtain ⟨hascii, hkelvin⟩ := h
    rcases eq_or_eq_of_small_lt run hrun (by omega) with rfl | rfl
    · have hc : c = Char.ofNat (0x41 + (c.toNat - 0x41)) := by
        rw [Nat.add_sub_cancel' hfirst, Char.ofNat_toNat]
      have hk : c.toNat - 0x41 < 26 := by
        simp only at hlast
        omega
      rw [hc]
      exact hletters _ hk
    · -- The Kelvin sign is not taken to a telling character.
      have hc : c.toNat = 0x212A := Nat.le_antisymm hlast hfirst
      rw [hc] at hsmall
      exact absurd (Char.toNat_inj.1 hsmall) hkelvin

/-- A text that is folded to telling characters is folded to them by the smaller folding. -/
theorem map_toLower_eq_lowerFrom {casedBefore : Bool} {text : List Char}
    (h : ∀ c ∈ lowerFrom casedBefore text, IsTelling c) :
    text.map Char.toLower = lowerFrom casedBefore text := by
  induction text generalizing casedBefore with
  | nil => rfl
  | cons c rest ih =>
      rw [lowerFrom_eq_map_settleFrom, settleFrom, List.map_append,
        ← lowerFrom_eq_map_settleFrom] at h ⊢
      obtain ⟨hhere, hrest⟩ := List.forall_mem_append.1 h
      -- Neither exception has small forms that are all telling.
      have hsigma : c ≠ 'Σ' := by
        rintro rfl
        rw [settleChar_sigma] at hhere
        have hform := hhere _ List.mem_cons_self
        split_ifs at hform
        · exact absurd hform (by decide)
        · exact absurd hform (by decide)
      have hdotted : c ≠ 'İ' := by
        rintro rfl
        rw [settleChar_dotted] at hhere
        exact absurd (hhere _ (List.mem_cons_of_mem _ List.mem_cons_self)) (by decide)
      rw [settleChar_of_ne hsigma hdotted, List.map_singleton] at hhere ⊢
      rw [List.map_cons, toLower_eq_of_isTelling (hhere _ (List.mem_singleton.2 rfl)), ih hrest]
      rfl

/-- **A text of telling characters is recognised by either folding.** -/
theorem lowercase_eq_iff {small : String} (htelling : small.toList.all fun c => IsTelling c)
    (hsmall : lowercase small = small) {text : String} :
    lowercase text = small ↔ asciiLower text = small := by
  constructor
  · rintro rfl
    simp only [toList_lowercase, List.all_eq_true, decide_eq_true_eq] at htelling
    rw [asciiLower, map_toLower_eq_lowerFrom htelling]
    rfl
  · rintro rfl
    rw [← hsmall, lowercase_asciiLower]

end Text
end ChannelCatalog
