import ChannelCatalog.Proofs.Glob.Meaning
import ChannelCatalog.Proofs.Text.AsciiForms

/-!
# Globs in other letter case

A glob may be folded before or after it becomes a pattern.  The smaller folding goes character by
character, and no special character is a letter.  The full folding looks at the letters around a
sigma; but whatever the pattern has in place of a special character of the glob separates letters
just as that character does.  So the pattern of a folded glob is the folded pattern.
-/

namespace ChannelCatalog
namespace Glob

open Text

/-! ## Replacing characters -/

theorem keepsPlain_toLower : KeepsPlain Char.toLower :=
  toLower_cases (motive := fun c small => small = c ∨ IsPlain c ∧ IsPlain small)
    (fun _ _ => Or.inl rfl) (by decide)

theorem keepsPlain_smallChar : KeepsPlain smallChar := by
  intro c
  have hbackslash : smallChar c = '\\' ↔ c = '\\' := smallChar_eq_iff (by decide +kernel)
  have hstar : smallChar c = '*' ↔ c = '*' := smallChar_eq_iff (by decide +kernel)
  have hquestion : smallChar c = '?' ↔ c = '?' := smallChar_eq_iff (by decide +kernel)
  have hpercent : smallChar c = '%' ↔ c = '%' := smallChar_eq_iff (by decide +kernel)
  have hunderscore : smallChar c = '_' ↔ c = '_' := smallChar_eq_iff (by decide +kernel)
  by_cases hplain : IsPlain c
  · refine Or.inr ⟨hplain, ?_⟩
    simpa [IsPlain, isWildcard, hbackslash, hstar, hquestion, hpercent, hunderscore] using hplain
  · -- Each special character is the small form of itself.
    simp only [IsPlain, isWildcard, Bool.or_eq_false_iff, decide_eq_false_iff_not] at hplain
    left
    grind

theorem KeepsPlain.map_spelledAfter {f : Char → Char} (hf : KeepsPlain f) (run : Nat)
    (glob : List Char) : (spelledAfter run glob).map f = spelledAfter run (glob.map f) := by
  have hbackslash : f '\\' = '\\' := (hf _).resolve_right fun hplain => hplain.1.1 rfl
  induction glob generalizing run with
  | nil => rw [List.map_nil, spelledAfter_nil, List.map_replicate, hbackslash]
  | cons c rest ih =>
      by_cases hc : c = '\\'
      · rw [hc, spelledAfter_backslash, ih, List.map_cons, hbackslash, spelledAfter_backslash]
      · have hfc : f c ≠ '\\' := by
          rcases hf c with hsame | ⟨-, hplain⟩
          · rwa [hsame]
          · exact hplain.1
        rw [spelledAfter_cons run hc, List.map_append, hf.map_spelledWith, ih, List.map_cons,
          spelledAfter_cons run hfc]

/-- The pattern of a glob in lower case is the pattern in lower case. -/
theorem asciiLower_toLike (glob : String) : asciiLower (toLike glob) = toLike (asciiLower glob) := by
  rw [← String.toList_inj, toList_asciiLower, toList_toLike_eq, toList_toLike_eq,
    keepsPlain_toLower.map_spelledAfter, toList_asciiLower]

theorem map_toLike_map_asciiLower (globs : List String) :
    (globs.map asciiLower).map toLike = (globs.map toLike).map asciiLower := by
  rw [List.map_map, List.map_map]
  exact List.map_congr_left fun glob _ => (asciiLower_toLike glob).symm

/-! ## Settling -/

/-- A character that stays as it is when a text is settled, and that separates letters. -/
structure IsSeparator (c : Char) : Prop where
  ignorable : isCaseIgnorable c = false
  cased : isCased c = false
  sigma : c ≠ 'Σ'
  dotted : c ≠ 'İ'

/-- The special characters are separators. -/
theorem isSeparator_of_not_isPlain {c : Char} (hc : ¬ IsPlain c) : IsSeparator c := by
  have hspecial : c = '\\' ∨ c = '*' ∨ c = '?' ∨ c = '%' ∨ c = '_' := by
    simp only [IsPlain, isWildcard, Bool.or_eq_false_iff, decide_eq_false_iff_not] at hc
    tauto
  rcases hspecial with rfl | rfl | rfl | rfl | rfl <;>
    exact ⟨by decide, by decide, by decide, by decide⟩

theorem settleFrom_cons_of_isSeparator {c : Char} (hc : IsSeparator c) (casedBefore : Bool)
    (rest : List Char) : settleFrom casedBefore (c :: rest) = c :: settleFrom false rest := by
  rw [settleFrom, settleChar_of_ne hc.sigma hc.dotted, casedAfter, if_neg (by simp [hc.ignorable]),
    hc.cased]
  rfl

/-- What follows separators is settled as at the beginning of a text. -/
theorem settleFrom_append_of_isSeparator {before : List Char} (h : ∀ c ∈ before, IsSeparator c)
    (casedBefore : Bool) (rest : List Char) :
    settleFrom casedBefore (before ++ rest) =
      before ++ settleFrom (before.isEmpty && casedBefore) rest := by
  induction before generalizing casedBefore with
  | nil => rfl
  | cons c more ih =>
      rw [List.cons_append, settleFrom_cons_of_isSeparator (h c List.mem_cons_self),
        ih (fun d hd => h d (List.mem_cons_of_mem c hd)), Bool.and_false]
      rfl

theorem casedAhead_append_of_isSeparator {before : List Char} (h : ∀ c ∈ before, IsSeparator c)
    (rest : List Char) :
    casedAhead (before ++ rest) = (before.isEmpty && casedAhead rest) := by
  cases before with
  | nil => rfl
  | cons c more =>
      have hc := h c List.mem_cons_self
      rw [List.cons_append, casedAhead, if_neg (by simp [hc.ignorable]), hc.cased]
      rfl

/-- A backslash is a separator, so a run of them is one. -/
theorem isSeparator_of_mem_replicate {run : Nat} {c : Char} (h : c ∈ List.replicate run '\\') :
    IsSeparator c := by
  rw [List.eq_of_mem_replicate h]
  exact isSeparator_of_not_isPlain (by decide)

theorem isSeparator_of_mem_spelledWith {run : Nat} {c d : Char} (hc : ¬ IsPlain c)
    (h : d ∈ spelledWith run c) : IsSeparator d := by
  rcases mem_spelledWith h with rfl | rfl | rfl | rfl
  · exact isSeparator_of_not_isPlain (by decide)
  · exact isSeparator_of_not_isPlain (by decide)
  · exact isSeparator_of_not_isPlain (by decide)
  · exact isSeparator_of_not_isPlain hc

theorem isEmpty_spelledWith (run : Nat) (c : Char) : (spelledWith run c).isEmpty = false := by
  unfold spelledWith Token.ofChar
  split_ifs <;> simp [Token.likeSpelling]

/-- A run of backslashes ends at the first plain character, and plain characters stay as they are. -/
theorem spelledAfter_append_of_isPlain {before : List Char} (hplain : ∀ c ∈ before, IsPlain c)
    (hsome : before ≠ []) (run : Nat) (rest : List Char) :
    spelledAfter run (before ++ rest) =
      List.replicate run '\\' ++ (before ++ spelledAfter 0 rest) := by
  induction before generalizing run with
  | nil => exact absurd rfl hsome
  | cons c more ih =>
      obtain ⟨hc, hmore⟩ := List.forall_mem_cons.1 hplain
      have hrest : spelledAfter 0 (more ++ rest) = more ++ spelledAfter 0 rest := by
        cases more with
        | nil => rfl
        | cons d more => exact ih hmore (List.cons_ne_nil d more) 0
      rw [List.cons_append, spelledAfter_cons run hc.1, spelledWith_of_isPlain run hc, hrest]
      simp

/-- What is settled of a plain character is plain. -/
theorem isPlain_of_mem_settleChar {final : Bool} {c d : Char} (hc : IsPlain c)
    (h : d ∈ settleChar final c) : IsPlain d := by
  rcases mem_settleChar h with (rfl | rfl | rfl | rfl) | ⟨rfl, -⟩
  · decide
  · decide
  · decide
  · decide
  · exact hc

theorem settleChar_ne_nil (final : Bool) (c : Char) : settleChar final c ≠ [] := by
  unfold settleChar
  split_ifs <;> exact List.cons_ne_nil _ _

/-- A cased letter is ahead in the pattern if it is ahead in the glob; a run of backslashes hides
it. -/
theorem casedAhead_spelledAfter (run : Nat) (glob : List Char) :
    casedAhead (spelledAfter run glob) = (decide (run = 0) && casedAhead glob) := by
  induction glob generalizing run with
  | nil =>
      have hrun : casedAhead (List.replicate run '\\' ++ []) = _ :=
        casedAhead_append_of_isSeparator (fun c => isSeparator_of_mem_replicate) []
      rw [List.append_nil] at hrun
      rw [spelledAfter_nil, hrun, List.isEmpty_replicate]
  | cons c rest ih =>
      by_cases hplain : IsPlain c
      · rw [spelledAfter_cons run hplain.1, spelledWith_of_isPlain run hplain, List.append_assoc,
          casedAhead_append_of_isSeparator fun d => isSeparator_of_mem_replicate,
          List.isEmpty_replicate, List.singleton_append, casedAhead, casedAhead, ih]
        rfl
      · have hseparator := isSeparator_of_not_isPlain hplain
        have hahead : casedAhead (c :: rest) = false := by
          rw [casedAhead, if_neg (by simp [hseparator.ignorable]), hseparator.cased]
        rw [hahead, Bool.and_false]
        by_cases hc : c = '\\'
        · rw [hc, spelledAfter_backslash, ih]
          rfl
        · rw [spelledAfter_cons run hc, casedAhead_append_of_isSeparator fun d =>
            isSeparator_of_mem_spelledWith hplain, isEmpty_spelledWith, Bool.false_and]

/-- The pattern of a settled glob is the settled pattern. -/
theorem settleFrom_spelledAfter (casedBefore : Bool) (run : Nat) (glob : List Char) :
    settleFrom casedBefore (spelledAfter run glob) =
      spelledAfter run (settleFrom (decide (run = 0) && casedBefore) glob) := by
  -- The letters before a run of backslashes no longer matter behind it.
  induction glob generalizing run casedBefore with
  | nil =>
      have hrun : settleFrom casedBefore (List.replicate run '\\' ++ []) = _ :=
        settleFrom_append_of_isSeparator (fun c => isSeparator_of_mem_replicate) casedBefore []
      rw [List.append_nil] at hrun
      rw [spelledAfter_nil, hrun]
      exact (List.append_nil _).trans (spelledAfter_nil run).symm
  | cons c rest ih =>
      by_cases hplain : IsPlain c
      · rw [spelledAfter_cons run hplain.1, spelledWith_of_isPlain run hplain, List.append_assoc,
          settleFrom_append_of_isSeparator fun d => isSeparator_of_mem_replicate,
          List.isEmpty_replicate, List.singleton_append, settleFrom, settleFrom,
          casedAhead_spelledAfter, ih,
          spelledAfter_append_of_isPlain (fun d => isPlain_of_mem_settleChar hplain)
            (settleChar_ne_nil _ c)]
        rfl
      · have hseparator := isSeparator_of_not_isPlain hplain
        rw [settleFrom_cons_of_isSeparator hseparator]
        by_cases hc : c = '\\'
        · rw [hc, spelledAfter_backslash, spelledAfter_backslash, ih]
          rfl
        · rw [spelledAfter_cons run hc, spelledAfter_cons run hc,
            settleFrom_append_of_isSeparator fun d => isSeparator_of_mem_spelledWith hplain,
            isEmpty_spelledWith, ih]
          rfl

/-- **The pattern of a folded glob is the folded pattern.** -/
theorem lowercase_toLike (glob : String) : lowercase (toLike glob) = toLike (lowercase glob) := by
  rw [← String.toList_inj, toList_lowercase, toList_toLike_eq, toList_toLike_eq, toList_lowercase,
    lowerFrom_eq_map_settleFrom, settleFrom_spelledAfter, keepsPlain_smallChar.map_spelledAfter,
    lowerFrom_eq_map_settleFrom]
  rfl

theorem lowercase_replicate {c : Char} (hsettled : c ≠ 'Σ' ∧ c ≠ 'İ') (hsmall : smallChar c = c)
    (count : Nat) :
    lowercase (String.ofList (List.replicate count c)) = String.ofList (List.replicate count c) := by
  have hall : ∀ d ∈ List.replicate count c, d ≠ 'Σ' ∧ d ≠ 'İ' := by
    intro d hd
    rw [List.eq_of_mem_replicate hd]
    exact hsettled
  rw [← String.toList_inj, toList_lowercase, String.toList_ofList, lowerFrom_eq_map_settleFrom,
    settleFrom_of_forall_ne hall, List.map_replicate, hsmall]

theorem lowercase_overlong : lowercase overlong = overlong :=
  lowercase_replicate (by decide) (by decide) _

/-- The glob is too long a pattern in lower case as well. -/
theorem isTooLong_lowercase_overlong : Like.isTooLong (lowercase (toLike overlong)) = true := by
  rw [lowercase_toLike, lowercase_overlong]
  exact isTooLong_overlong

/-! ## Wildcards -/

theorem any_isWildcard_settleFrom (casedBefore : Bool) (glob : List Char) :
    (settleFrom casedBefore glob).any isWildcard = glob.any isWildcard := by
  induction glob generalizing casedBefore with
  | nil => rfl
  | cons c rest ih =>
      have hhere : ∀ final, (settleChar final c).any isWildcard = isWildcard c := by
        intro final
        unfold settleChar
        split_ifs with hsigma <;> first | (subst c; decide) | simp
      rw [settleFrom, List.any_append, hhere, ih, List.any_cons]

/-- Whether a glob has wildcards does not depend on its letter case. -/
theorem isPattern_lowercase (glob : String) : isPattern (lowercase glob) = isPattern glob := by
  have hwildcard : ∀ c, isWildcard (smallChar c) = isWildcard c := by
    intro c
    rcases keepsPlain_smallChar c with hsame | ⟨hplain, hsmall⟩
    · rw [hsame]
    · rw [hplain.2.1, hsmall.2.1]
  rw [isPattern, toList_lowercase, lowerFrom_eq_map_settleFrom, List.any_map]
  simp only [Function.comp_def, hwildcard]
  exact any_isWildcard_settleFrom false glob.toList

end Glob
end ChannelCatalog
