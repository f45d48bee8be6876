import ChannelCatalog.Proofs.Glob.LetterCase

/-!
# Globs for a single text

A text becomes a glob for itself when a backslash is put before each of its backslashes and
wildcards.  The pattern for that glob stands for the characters of the text one by one, whatever
they are: each run of backslashes in front of a `%` or `_` has been doubled, so none is set free.
Folding may be done before or after, since a backslash separates letters no less than the special
character behind it.
-/

namespace ChannelCatalog
namespace Glob

open Text
open Like (Element readText)

/-- A character that has to be escaped in a glob to stand for itself. -/
def IsSpecial (c : Char) : Prop :=
  c = '\\' ∨ isWildcard c = true

instance (c : Char) : Decidable (IsSpecial c) :=
  inferInstanceAs (Decidable (_ ∨ _))

/-- The character as it is spelled in a glob to stand for itself. -/
def literalChar (c : Char) : List Char :=
  if IsSpecial c then ['\\', c] else [c]

/-- The glob for a single text. -/
def literal (text : String) : String :=
  String.ofList (text.toList.flatMap literalChar)

@[simp] theorem toList_literal (text : String) :
    (literal text).toList = text.toList.flatMap literalChar := by
  simp [literal]

theorem literalChar_of_isSpecial {c : Char} (hc : IsSpecial c) : literalChar c = ['\\', c] :=
  if_pos hc

theorem literalChar_of_not_isSpecial {c : Char} (hc : ¬ IsSpecial c) : literalChar c = [c] :=
  if_neg hc

theorem isSpecial_iff {c : Char} : IsSpecial c ↔ c = '\\' ∨ c = '*' ∨ c = '?' := by
  simp [IsSpecial, isWildcard]

theorem not_isSpecial_of_isPlain {c : Char} (hc : IsPlain c) : ¬ IsSpecial c :=
  not_or.2 ⟨hc.1, by simp [hc.2.1]⟩

/-! ## What the glob means -/

/-- The glob is read as the characters of the text. -/
theorem elements_flatMap_literalChar (text : List Char) :
    elements (text.flatMap literalChar) = text.map Element.char := by
  induction text with
  | nil => rfl
  | cons c rest ih =>
      rw [elements] at ih ⊢
      rw [List.flatMap_cons, List.map_cons]
      by_cases hc : IsSpecial c
      · rw [literalChar_of_isSpecial hc, List.cons_append, List.singleton_append,
          Like.elementsWith, ih]
      · have hwildcard : wildcard? c = none := by
          rw [isSpecial_iff, not_or, not_or] at hc
          simp [wildcard?, hc]
        rw [literalChar_of_not_isSpecial hc, List.singleton_append,
          Like.elementsWith_cons _ (not_or.1 hc).1, hwildcard, ih]
        rfl

/-- Behind pairs of backslashes, the glob sets no special character free. -/
theorem freedAfter_flatMap_literalChar {run : Nat} (heven : run % 2 = 0) (text : List Char) :
    freedAfter run (text.flatMap literalChar) = 0 := by
  -- A backslash of the text makes the run longer by a pair, and all else ends it.
  induction text generalizing run with
  | nil => rfl
  | cons c rest ih =>
      rw [List.flatMap_cons]
      by_cases hbackslash : c = '\\'
      · subst hbackslash
        have hpair : (run + 1 + 1) % 2 = 0 := by omega
        rw [literalChar_of_isSpecial (Or.inl rfl), List.cons_append, List.singleton_append,
          freedAfter, if_pos rfl, freedAfter, if_pos rfl, ih hpair]
      · by_cases hc : IsSpecial c
        · have hkept : ¬ IsLikeSpecial c := by
            rcases isSpecial_iff.1 hc with rfl | rfl | rfl <;> decide
          rw [literalChar_of_isSpecial hc, List.cons_append, List.singleton_append, freedAfter,
            if_pos rfl, freedAfter, if_neg hbackslash, if_neg fun hfreed => hkept hfreed.2,
            ih (Nat.zero_mod 2)]
        · rw [literalChar_of_not_isSpecial hc, List.singleton_append, freedAfter,
            if_neg hbackslash, if_neg fun hfreed => by omega, ih (Nat.zero_mod 2)]

/-- Replacing plain characters by plain ones may be done in the text or in its glob. -/
theorem KeepsPlain.map_flatMap_literalChar {f : Char → Char} (hf : KeepsPlain f)
    (text : List Char) :
    (text.flatMap literalChar).map f = (text.map f).flatMap literalChar := by
  have hbackslash : f '\\' = '\\' := (hf _).resolve_right fun hplain => hplain.1.1 rfl
  have hchar : ∀ c, (literalChar c).map f = literalChar (f c) := by
    intro c
    rcases hf c with hsame | ⟨hplain, hread⟩
    · rw [hsame]
      by_cases hc : IsSpecial c
      · rw [literalChar_of_isSpecial hc, List.map_cons, List.map_singleton, hbackslash, hsame]
      · rw [literalChar_of_not_isSpecial hc, List.map_singleton, hsame]
    · rw [literalChar_of_not_isSpecial (not_isSpecial_of_isPlain hplain),
        literalChar_of_not_isSpecial (not_isSpecial_of_isPlain hread), List.map_singleton]
  rw [List.map_flatMap, List.flatMap_map]
  exact List.flatMap_congr fun c _ => hchar c

/-- A store reads the glob for a text as the glob for what it would read of the text. -/
theorem readText_flatMap_literalChar (text : List Char) :
    readText (text.flatMap literalChar) = (readText text).flatMap literalChar := by
  have hnull : ¬ IsSpecial '\x00' := by decide
  induction text with
  | nil => rfl
  | cons c rest ih =>
      by_cases hc : c = '\x00'
      · subst hc
        rw [List.flatMap_cons, literalChar_of_not_isSpecial hnull]
        rfl
      · have hkept : '\x00' ∉ literalChar c := by
          unfold literalChar
          split_ifs <;> simp [Ne.symm hc]
        have hchar := keepsPlain_readChar.map_flatMap_literalChar [c]
        simp only [List.flatMap_cons, List.flatMap_nil, List.append_nil, List.map_cons,
          List.map_nil] at hchar
        rw [List.flatMap_cons, Like.readText_append hkept, hchar, ih, Like.readText_cons hc,
          List.flatMap_cons]

/-- **The pattern for the glob of a text matches that text only.**  A store sees no difference of
ASCII case, nor any in what it does not read. -/
theorem holdsFor_toLike_literal_iff (text : String) (found : List Char) :
    Like.holdsFor (toLike (literal text)) found = true ↔
      (readText text.toList).map Char.toLower = found.map Char.toLower := by
  rw [Like.holdsFor, Like.matchesElements_eq_true_iff, toList_toLike_eq, readText_spelledAfter,
    toList_literal, readText_flatMap_literalChar,
    elements_spelledAfter (freedAfter_flatMap_literalChar (Nat.zero_mod 2) _),
    List.replicate_zero, List.nil_append, elements_flatMap_literalChar, Like.matches_map_char_iff]

/-- The glob for a text has wildcard characters, if only escaped ones, exactly if the text has. -/
theorem isPattern_literal (text : String) : isPattern (literal text) = isPattern text := by
  have hchar : ∀ c, (literalChar c).any isWildcard = isWildcard c := by
    intro c
    have hbackslash : isWildcard '\\' = false := by decide
    unfold literalChar
    split_ifs <;> simp [hbackslash]
  rw [isPattern, isPattern, toList_literal, List.any_flatMap]
  simp only [hchar]

/-- A text is the pattern for its own glob if it has no backslashes and none of the characters that
are special in a pattern. -/
theorem toLike_literal {text : String} (h : ∀ c ∈ text.toList, c ≠ '\\' ∧ c ≠ '%' ∧ c ≠ '_') :
    toLike (literal text) = text := by
  have hspelled : ∀ text : List Char, (∀ c ∈ text, c ≠ '\\' ∧ c ≠ '%' ∧ c ≠ '_') →
      spelledAfter 0 (text.flatMap literalChar) = text := by
    intro text h
    induction text with
    | nil => rfl
    | cons c rest ih =>
        rw [List.forall_mem_cons] at h
        obtain ⟨⟨hbackslash, hpercent, hunderscore⟩, hrest⟩ := h
        rw [List.flatMap_cons]
        by_cases hc : IsSpecial c
        · -- The backslash is spent on the wildcard, which is no longer special in the pattern.
          have hwildcard : isWildcard c = true := hc.resolve_left hbackslash
          rw [literalChar_of_isSpecial hc, List.cons_append, List.singleton_append,
            spelledAfter_backslash, spelledAfter_cons _ hbackslash, ih hrest, spelledWith,
            if_pos ⟨hwildcard, rfl⟩]
          rfl
        · have hplain : IsPlain c :=
            ⟨hbackslash, Bool.eq_false_iff.2 (not_or.1 hc).2, hpercent, hunderscore⟩
          rw [literalChar_of_not_isSpecial hc, List.singleton_append,
            spelledAfter_cons _ hbackslash, ih hrest, spelledWith, if_neg fun hodd => by simp at hodd,
            Token.ofChar_of_isPlain hplain]
          rfl
  rw [← String.toList_inj, toList_toLike_eq, toList_literal, hspelled text.toList h]

/-! ## Letter case -/

theorem asciiLower_literal (text : String) : asciiLower (literal text) = literal (asciiLower text) := by
  rw [← String.toList_inj, toList_asciiLower, toList_literal, toList_literal, toList_asciiLower,
    keepsPlain_toLower.map_flatMap_literalChar]

theorem isSeparator_of_isSpecial {c : Char} (hc : IsSpecial c) : IsSeparator c :=
  isSeparator_of_not_isPlain fun hplain => not_isSpecial_of_isPlain hplain hc

/-- A letter is ahead in the glob for a text if it is ahead in the text. -/
theorem casedAhead_flatMap_literalChar (text : List Char) :
    casedAhead (text.flatMap literalChar) = casedAhead text := by
  induction text with
  | nil => rfl
  | cons c rest ih =>
      rw [List.flatMap_cons]
      by_cases hc : IsSpecial c
      · -- Nothing is looked for behind a backslash, nor behind the character that it escapes.
        have hescaped : ∀ d ∈ literalChar c, IsSeparator d := by
          rw [literalChar_of_isSpecial hc]
          simp [isSeparator_of_isSpecial hc, isSeparator_of_isSpecial (show IsSpecial '\\' by decide)]
        have hhere : ∀ d ∈ [c], IsSeparator d := by
          simp [isSeparator_of_isSpecial hc]
        rw [casedAhead_append_of_isSeparator hescaped, ← List.singleton_append,
          casedAhead_append_of_isSeparator hhere, literalChar_of_isSpecial hc]
        rfl
      · rw [literalChar_of_not_isSpecial hc, List.singleton_append, casedAhead, casedAhead, ih]

/-- The glob for a settled text is the settled glob. -/
theorem settleFrom_flatMap_literalChar (casedBefore : Bool) (text : List Char) :
    settleFrom casedBefore (text.flatMap literalChar) =
      (settleFrom casedBefore text).flatMap literalChar := by
  induction text generalizing casedBefore with
  | nil => rfl
  | cons c rest ih =>
      rw [List.flatMap_cons]
      by_cases hplain : IsPlain c
      · have hsettled : ∀ final, (settleChar final c).flatMap literalChar = settleChar final c := by
          intro final
          rw [List.flatMap_congr fun d hd => literalChar_of_not_isSpecial
            (not_isSpecial_of_isPlain (isPlain_of_mem_settleChar hplain hd))]
          exact List.flatMap_singleton' _
        rw [literalChar_of_not_isSpecial (not_isSpecial_of_isPlain hplain), List.singleton_append,
          settleFrom, settleFrom, casedAhead_flatMap_literalChar, ih, List.flatMap_append, hsettled]
      · have hseparator := isSeparator_of_not_isPlain hplain
        rw [settleFrom_cons_of_isSeparator hseparator, List.flatMap_cons, ← ih]
        by_cases hc : IsSpecial c
        · rw [literalChar_of_isSpecial hc, List.cons_append, List.singleton_append,
            settleFrom_cons_of_isSeparator (isSeparator_of_isSpecial (by decide)),
            settleFrom_cons_of_isSeparator hseparator]
          rfl
        · rw [literalChar_of_not_isSpecial hc, List.singleton_append,
            settleFrom_cons_of_isSeparator hseparator]
          rfl

/-- **The glob for a folded text is the folded glob.** -/
theorem lowercase_literal (text : String) : lowercase (literal text) = literal (lowercase text) := by
  rw [← String.toList_inj, toList_lowercase, toList_literal, toList_literal, toList_lowercase,
    lowerFrom_eq_map_settleFrom, settleFrom_flatMap_literalChar,
    keepsPlain_smallChar.map_flatMap_literalChar, lowerFrom_eq_map_settleFrom]

/-! ## Texts that are too long -/

/-- A text of wildcards, one more than a pattern may have bytes. -/
def stars : String :=
  String.ofList (List.replicate (Like.maxPatternBytes + 1) '*')

theorem isPattern_stars : isPattern stars = true := by
  rw [isPattern, stars, String.toList_ofList, List.any_replicate]
  rfl

/-- The pattern for the glob of the text is too long. -/
theorem isTooLong_literal_stars : Like.isTooLong (toLike (literal stars)) = true := by
  have hsame : toLike (literal stars) = stars := by
    refine toLike_literal fun c hc => ?_
    rw [stars, String.toList_ofList] at hc
    rw [List.eq_of_mem_replicate hc]
    decide
  rw [hsame]
  exact Like.isTooLong_replicate '*'

/-- It is too long in lower case as well. -/
theorem isTooLong_lowercase_literal_stars :
    Like.isTooLong (lowercase (toLike (literal stars))) = true := by
  have hsame : lowercase stars = stars := lowercase_replicate (by decide) (by decide) _
  rw [lowercase_toLike, lowercase_literal, hsame]
  exact isTooLong_literal_stars

end Glob
end ChannelCatalog
