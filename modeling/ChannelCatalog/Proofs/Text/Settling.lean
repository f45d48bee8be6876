import ChannelCatalog.Proofs.Text.Folding

/-!
# What the full folding does in context

The full folding takes characters to their small forms one by one, with two exceptions.  The form of
a small sigma depends on the letters around it, and the dotted capital I becomes two characters.  A
text is settled when these two are put in small form, and all other characters stay as they are.  The
full folding settles a text first, and then takes each character to its small form by a table.  No
small form is a capital of the table, so a text that has been folded stays as it is.
-/

namespace ChannelCatalog
namespace Text

/-! ## The table -/

/-- The small form of a character by the table. -/
def smallChar (c : Char) : Char :=
  ((CaseRun.find? caseRuns c.toNat).map Char.ofNat).getD c

namespace CaseRun

/-- The code point lies among the capitals of a run or among their small forms. -/
def Touches (run : CaseRun) (code : Nat) : Prop :=
  run.first ≤ code ∧ code ≤ run.last ∨
    run.small ≤ code ∧ code ≤ run.small + (run.last - run.first)

instance (run : CaseRun) (code : Nat) : Decidable (run.Touches code) :=
  inferInstanceAs (Decidable (_ ∨ _))

/-- The code point is that of a capital of a run. -/
structure Holds (run : CaseRun) (code : Nat) : Prop where
  first : run.first ≤ code
  last : code ≤ run.last
  step : (code - run.first) % run.step = 0

/-- No small form of the run is a capital of one of the ascending runs.  Where the two lie among each
other, one takes every second code point and the other those between. -/
def isClearOf (run : CaseRun) : List CaseRun → Bool
  | [] => true
  | other :: rest =>
    if other.last < run.small then run.isClearOf rest
    else run.small + (run.last - run.first) < other.first ||
      (run.step = 2 || run.first = run.last) && other.step = 2 &&
        (run.small + other.first) % 2 = 1 && run.isClearOf rest

theorem find?_eq_none_of_isClearOf {run : CaseRun} {runs : List CaseRun}
    (h : run.isClearOf runs = true) {code : Nat} (hcode : run.Holds code) :
    find? runs (run.small + (code - run.first)) = none := by
  obtain ⟨hfirst, hlast, hstep⟩ := hcode
  induction runs with
  | nil => rfl
  | cons other rest ih =>
      rw [isClearOf] at h
      rw [find?]
      split at h
      · -- The other run lies before all small forms.
        split
        · rfl
        · rw [if_neg (by omega), ih h]
      · simp only [Bool.or_eq_true, Bool.and_eq_true, decide_eq_true_eq] at h
        rcases h with hbelow | ⟨⟨⟨hevery, hother⟩, hodd⟩, hrest⟩
        · rw [if_pos (by omega)]
        · have hbetween : ¬ other.first ≤ run.small + (code - run.first) ∨
              (run.small + (code - run.first) - other.first) % other.step ≠ 0 := by
            rw [hother]
            rcases hevery with hsecond | hsingle
            · rw [hsecond] at hstep
              omega
            · omega
          split
          · rfl
          · rw [if_neg (fun hhere => hbetween.elim (by omega) fun hne => hne hhere.2), ih hrest]

theorem find?_eq_some {runs : List CaseRun} {code small : Nat}
    (h : find? runs code = some small) :
    ∃ run ∈ runs, run.Holds code ∧ small = run.small + (code - run.first) := by
  induction runs with
  | nil => cases h
  | cons run rest ih =>
      rw [find?] at h
      split at h
      · cases h
      · rename_i hbefore
        split at h
        · rename_i hhere
          exact ⟨run, List.mem_cons_self, ⟨Nat.le_of_not_lt hbefore, hhere.1, hhere.2⟩,
            (Option.some.inj h).symm⟩
        · obtain ⟨other, hother, hfound⟩ := ih h
          exact ⟨other, List.mem_cons_of_mem run hother, hfound⟩

end CaseRun

/-- All small forms in the table are characters. -/
theorem isValidChar_of_mem_caseRuns :
    ∀ run ∈ caseRuns, run.small + (run.last - run.first) < 0xD800 ∨
      0xDFFF < run.small ∧ run.small + (run.last - run.first) < 0x110000 := by
  decide +kernel

/-- The table leaves a character alone, or it moves it as the run moves that the character is in. -/
theorem smallChar_eq_self_or (c : Char) :
    smallChar c = c ∨ ∃ run ∈ caseRuns, run.Holds c.toNat ∧
      (smallChar c).toNat = run.small + (c.toNat - run.first) := by
  cases hfound : CaseRun.find? caseRuns c.toNat with
  | none =>
      rw [smallChar, hfound]
      exact Or.inl rfl
  | some small =>
      obtain ⟨run, hrun, hholds, hsmall⟩ := CaseRun.find?_eq_some hfound
      have hlast := hholds.last
      have hvalid : small.isValidChar := by
        rcases isValidChar_of_mem_caseRuns run hrun with hlow | ⟨hhigh, hmax⟩
        · exact Or.inl (by omega)
        · exact Or.inr ⟨by omega, by omega⟩
      have hto : (smallChar c).toNat = small := by
        rw [smallChar, hfound, Option.map_some, Option.getD_some, Char.ofNat, dif_pos hvalid]
        rfl
      exact Or.inr ⟨run, hrun, hholds, hto.trans hsmall⟩

/-- A character that the table does not touch is the small form of itself alone. -/
theorem smallChar_eq_iff {other : Char} (huntouched : ∀ run ∈ caseRuns, ¬ run.Touches other.toNat)
    {c : Char} : smallChar c = other ↔ c = other := by
  rcases smallChar_eq_self_or c with hsame | ⟨run, hrun, hholds, hsmall⟩
  · rw [hsame]
  · have hlast := hholds.last
    constructor
    · rintro rfl
      exact absurd (Or.inr (by omega)) (huntouched run hrun)
    · rintro rfl
      exact absurd (Or.inl ⟨hholds.first, hlast⟩) (huntouched run hrun)

/-- No small form in the table is a capital in it. -/
theorem isClearOf_caseRuns : ∀ run ∈ caseRuns, run.isClearOf caseRuns = true := by
  decide +kernel

/-- A small form is the small form of itself. -/
theorem smallChar_smallChar (c : Char) : smallChar (smallChar c) = smallChar c := by
  rcases smallChar_eq_self_or c with hsame | ⟨run, hrun, hholds, hsmall⟩
  · rw [hsame, hsame]
  · have hnone := CaseRun.find?_eq_none_of_isClearOf (isClearOf_caseRuns run hrun) hholds
    rw [← hsmall] at hnone
    rw [smallChar, hnone, Option.map_none, Option.getD_none]

theorem smallChar_toLower (c : Char) : smallChar c.toLower = smallChar c :=
  toLower_cases (motive := fun c small => smallChar small = smallChar c) (fun _ _ => rfl)
    (by decide) c

/-! ## Settling -/

/-- What becomes of a character; `final` tells whether a sigma takes its final form. -/
def settleChar (final : Bool) (c : Char) : List Char :=
  if c = 'Σ' then [if final then 'ς' else 'σ'] else if c = 'İ' then ['i', '\u0307'] else [c]

/-- Whether the nearest character that is not case-ignorable is cased, once a character has been
read. -/
def casedAfter (casedBefore : Bool) (c : Char) : Bool :=
  if isCaseIgnorable c then casedBefore else isCased c

/-- Settles the rest of a text; `casedBefore` tells whether the nearest character before it that is
not case-ignorable is cased. -/
def settleFrom (casedBefore : Bool) : List Char → List Char
  | [] => []
  | c :: rest =>
    settleChar (casedBefore && !casedAhead rest) c ++ settleFrom (casedAfter casedBefore c) rest

/-- Puts the capital sigmas and the dotted capital Is of a text in small form, and nothing else. -/
def settle (text : String) : String :=
  String.ofList (settleFrom false text.toList)

@[simp] theorem toList_settle (text : String) :
    (settle text).toList = settleFrom false text.toList := by
  simp [settle]

theorem settleChar_of_ne {c : Char} (hsigma : c ≠ 'Σ') (hdotted : c ≠ 'İ') (final : Bool) :
    settleChar final c = [c] := by
  rw [settleChar, if_neg hsigma, if_neg hdotted]

theorem settleChar_sigma (final : Bool) :
    settleChar final 'Σ' = [if final then 'ς' else 'σ'] :=
  if_pos rfl

theorem settleChar_dotted (final : Bool) : settleChar final 'İ' = ['i', '\u0307'] :=
  (if_neg (by decide)).trans (if_pos rfl)

/-- What is settled of a character is a small form of an exception, or the character itself. -/
theorem mem_settleChar {final : Bool} {c d : Char} (h : d ∈ settleChar final c) :
    (d = 'ς' ∨ d = 'σ' ∨ d = 'i' ∨ d = '\u0307') ∨ d = c ∧ c ≠ 'Σ' ∧ c ≠ 'İ' := by
  by_cases hsigma : c = 'Σ'
  · rw [hsigma, settleChar_sigma, List.mem_singleton] at h
    cases final
    · exact Or.inl (Or.inr (Or.inl h))
    · exact Or.inl (Or.inl h)
  · by_cases hdotted : c = 'İ'
    · rw [hdotted, settleChar_dotted, List.mem_cons, List.mem_singleton] at h
      exact Or.inl (Or.inr (Or.inr h))
    · rw [settleChar_of_ne hsigma hdotted, List.mem_singleton] at h
      exact Or.inr ⟨h, hsigma, hdotted⟩

/-- Every character but the dotted capital I stays one character. -/
theorem exists_settleChar_eq_singleton {c : Char} (hdotted : c ≠ 'İ') (final : Bool) :
    ∃ form, settleChar final c = [form] := by
  by_cases hsigma : c = 'Σ'
  · exact ⟨_, if_pos hsigma⟩
  · exact ⟨c, settleChar_of_ne hsigma hdotted final⟩

/-- The two exceptions stay as they are once they are settled. -/
theorem map_smallChar_settleChar (final : Bool) (c : Char) :
    (settleChar final c).map smallChar =
      if c = 'Σ' then [if final then 'ς' else 'σ'] else lowerChar c := by
  by_cases hsigma : c = 'Σ'
  · subst hsigma
    cases final <;> decide
  · by_cases hdotted : c = 'İ'
    · subst hdotted
      cases final <;> decide
    · rw [settleChar_of_ne hsigma hdotted, if_neg hsigma, lowerChar, if_neg hdotted, List.map_singleton,
        smallChar]
      cases CaseRun.find? caseRuns c.toNat <;> rfl

/-- **The full folding settles a text and then goes by the table.** -/
theorem lowerFrom_eq_map_settleFrom (casedBefore : Bool) (text : List Char) :
    lowerFrom casedBefore text = (settleFrom casedBefore text).map smallChar := by
  induction text generalizing casedBefore with
  | nil => rfl
  | cons c rest ih =>
      rw [lowerFrom, settleFrom, List.map_append, map_smallChar_settleChar, ih]
      rfl

/-- What follows a part of a text is settled on its own, except for the context before it. -/
theorem exists_settleFrom_append (casedBefore : Bool) (before rest : List Char) :
    ∃ (settled : List Char) (casedThen : Bool),
      settleFrom casedBefore (before ++ rest) = settled ++ settleFrom casedThen rest := by
  induction before generalizing casedBefore with
  | nil => exact ⟨[], casedBefore, rfl⟩
  | cons c more ih =>
      obtain ⟨settled, casedThen, hmore⟩ := ih (casedAfter casedBefore c)
      refine ⟨settleChar (casedBefore && !casedAhead (more ++ rest)) c ++ settled, casedThen, ?_⟩
      rw [List.cons_append, settleFrom, hmore, List.append_assoc]

/-! ## Folding twice -/

theorem ne_of_mem_settleChar {final : Bool} {c d : Char} (h : d ∈ settleChar final c) :
    d ≠ 'Σ' ∧ d ≠ 'İ' := by
  rcases mem_settleChar h with (rfl | rfl | rfl | rfl) | ⟨rfl, hne⟩
  · decide
  · decide
  · decide
  · decide
  · exact hne

/-- A text with neither exception is settled. -/
theorem settleFrom_of_forall_ne {text : List Char} (h : ∀ c ∈ text, c ≠ 'Σ' ∧ c ≠ 'İ')
    (casedBefore : Bool) : settleFrom casedBefore text = text := by
  induction text generalizing casedBefore with
  | nil => rfl
  | cons c rest ih =>
      obtain ⟨⟨hsigma, hdotted⟩, hrest⟩ := List.forall_mem_cons.1 h
      rw [settleFrom, settleChar_of_ne hsigma hdotted, ih hrest, List.singleton_append]

theorem ne_of_mem_settleFrom {casedBefore : Bool} {text : List Char} {c : Char}
    (h : c ∈ settleFrom casedBefore text) : c ≠ 'Σ' ∧ c ≠ 'İ' := by
  induction text generalizing casedBefore with
  | nil => cases h
  | cons d rest ih =>
      rcases List.mem_append.1 h with hhere | hrest
      · exact ne_of_mem_settleChar hhere
      · exact ih hrest

/-- A small form is neither of the exceptions, unless it is the small form of one. -/
theorem smallChar_ne {c : Char} (h : c ≠ 'Σ' ∧ c ≠ 'İ') :
    smallChar c ≠ 'Σ' ∧ smallChar c ≠ 'İ' := by
  have hdotted : smallChar c = 'İ' ↔ c = 'İ' := smallChar_eq_iff (by decide +kernel)
  refine ⟨fun hsigma => ?_, mt hdotted.1 h.2⟩
  -- A sigma is not the small form of itself, so it is no small form.
  have hsmall := smallChar_smallChar c
  rw [hsigma] at hsmall
  exact absurd hsmall (by decide)

/-- **A text that has been folded stays as it is.** -/
@[simp] theorem lowercase_lowercase (text : String) :
    lowercase (lowercase text) = lowercase text := by
  have hsettled : ∀ c ∈ lowerFrom false text.toList, c ≠ 'Σ' ∧ c ≠ 'İ' := by
    rw [lowerFrom_eq_map_settleFrom, List.forall_mem_map]
    exact fun c hc => smallChar_ne (ne_of_mem_settleFrom hc)
  rw [← String.toList_inj, toList_lowercase, toList_lowercase, lowerFrom_eq_map_settleFrom,
    settleFrom_of_forall_ne hsettled, lowerFrom_eq_map_settleFrom, List.map_map]
  exact List.map_congr_left fun c _ => smallChar_smallChar c

/-- The full folding leaves no letters `A` to `Z`. -/
@[simp] theorem asciiLower_lowercase (text : String) :
    asciiLower (lowercase text) = lowercase text := by
  have hletter : ∀ c : Char, smallChar c = c → c.toLower = c :=
    toLower_cases (motive := fun c small => smallChar c = c → small = c) (fun _ _ _ => rfl)
      (by decide)
  rw [← String.toList_inj, toList_asciiLower, toList_lowercase, lowerFrom_eq_map_settleFrom,
    List.map_map]
  exact List.map_congr_left fun c _ => hletter _ (smallChar_smallChar c)

end Text
end ChannelCatalog
