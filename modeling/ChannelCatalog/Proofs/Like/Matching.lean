import ChannelCatalog.Like.Reading
import Mathlib.Data.List.Basic

/-!
# What it is to match

A text matches elements if it falls into parts, one for each element in turn.  The search for such
parts gives up early: once what stands behind a `%` has been tried at every end of the text, no
longer run for an earlier `%` is tried.  Giving up loses no match, so the search decides matching.

Patterns are read in the same way in every language of wildcards; languages differ in the characters
that are wildcards.  What is read of a run of backslashes depends on its parity alone.
-/

namespace ChannelCatalog
namespace Like

/-- All of a text falls into parts that the elements stand for, in their order. -/
inductive Matches : List Element → List Char → Prop
  | nil : Matches [] []
  | anySequence {pattern : List Element} {rest : List Char} (skipped : List Char)
      (hrest : Matches pattern rest) : Matches (.anySequence :: pattern) (skipped ++ rest)
  | anyChar {pattern : List Element} {rest : List Char} (c : Char)
      (hrest : Matches pattern rest) : Matches (.anyChar :: pattern) (c :: rest)
  | char {pattern : List Element} {rest : List Char} {c d : Char} (hsame : sameChar c d = true)
      (hrest : Matches pattern rest) : Matches (.char c :: pattern) (d :: rest)

theorem matches_anyChar_iff {pattern : List Element} {text : List Char} :
    Matches (.anyChar :: pattern) text ↔ ∃ d rest, text = d :: rest ∧ Matches pattern rest := by
  constructor
  · rintro (_ | _ | @⟨_, rest, d, hrest⟩)
    exact ⟨d, rest, rfl, hrest⟩
  · rintro ⟨d, rest, rfl, hrest⟩
    exact .anyChar d hrest

theorem matches_char_iff {pattern : List Element} {c : Char} {text : List Char} :
    Matches (.char c :: pattern) text ↔
      ∃ d rest, text = d :: rest ∧ sameChar c d = true ∧ Matches pattern rest := by
  constructor
  · rintro (_ | _ | _ | @⟨_, rest, _, d, hsame, hrest⟩)
    exact ⟨d, rest, rfl, hsame, hrest⟩
  · rintro ⟨d, rest, rfl, hsame, hrest⟩
    exact .char hsame hrest

/-- Single characters match the texts that have the same characters up to ASCII case. -/
theorem matches_map_char_iff {chars text : List Char} :
    Matches (chars.map Element.char) text ↔
      chars.map Char.toLower = text.map Char.toLower := by
  induction chars generalizing text with
  | nil =>
      constructor
      · rintro ⟨⟩
        rfl
      · intro h
        rw [List.map_eq_nil_iff.1 h.symm]
        exact .nil
  | cons c rest ih =>
      rw [List.map_cons, matches_char_iff, List.map_cons]
      constructor
      · rintro ⟨d, more, rfl, hsame, hmore⟩
        rw [List.map_cons, ih.1 hmore, of_decide_eq_true hsame]
      · intro h
        obtain ⟨d, more, rfl, hsame, hmore⟩ := List.map_eq_cons_iff.1 h.symm
        exact ⟨d, more, rfl, decide_eq_true hsame.symm, ih.2 hmore.symm⟩

theorem matches_anySequence_iff {pattern : List Element} {text : List Char} :
    Matches (.anySequence :: pattern) text ↔ ∃ rest, rest <:+ text ∧ Matches pattern rest := by
  constructor
  · rintro (_ | @⟨_, rest, skipped, hrest⟩)
    exact ⟨rest, List.suffix_append skipped rest, hrest⟩
  · rintro ⟨rest, ⟨skipped, rfl⟩, hrest⟩
    exact .anySequence skipped hrest

theorem matches_anySequence_cons_iff {pattern : List Element} {c : Char} {rest : List Char} :
    Matches (.anySequence :: pattern) (c :: rest) ↔
      Matches pattern (c :: rest) ∨ Matches (.anySequence :: pattern) rest := by
  simp only [matches_anySequence_iff, List.suffix_cons_iff, or_and_right, exists_or,
    exists_eq_left]

/-- A second `%` adds nothing to the one before it. -/
theorem matches_anySequence_twice {pattern : List Element} {text : List Char}
    (h : Matches (.anySequence :: .anySequence :: pattern) text) :
    Matches (.anySequence :: pattern) text := by
  obtain ⟨middle, hmiddle, h⟩ := matches_anySequence_iff.1 h
  obtain ⟨rest, hrest, h⟩ := matches_anySequence_iff.1 h
  exact matches_anySequence_iff.2 ⟨rest, hrest.trans hmiddle, h⟩

/-- What the end of an attempt tells about the text and all its ends. -/
def Attempt.Tells (pattern : List Element) (text : List Char) : Attempt → Prop
  | matched => Matches pattern text
  | failed => ¬ Matches pattern text
  | exhausted => ¬ Matches (.anySequence :: pattern) text

/-- An attempt that did not end in a match tells at least that there is none. -/
theorem Attempt.Tells.not_matches {pattern : List Element} {text : List Char} {ended : Attempt}
    (htells : ended.Tells pattern text) (h : ended ≠ .matched) : ¬ Matches pattern text := by
  cases ended with
  | matched => exact absurd rfl h
  | failed => exact htells
  | exhausted => exact fun hmatches => htells (.anySequence [] hmatches)

/-- If the pattern behind a `%` does not match here, all is told by the search from the next character
on. -/
theorem Attempt.Tells.skip {pattern : List Element} {c : Char} {rest : List Char}
    {ended : Attempt} (hhere : ¬ Matches pattern (c :: rest))
    (htells : ended.Tells (.anySequence :: pattern) rest) :
    ended.Tells (.anySequence :: pattern) (c :: rest) := by
  have hlater : Matches (.anySequence :: pattern) (c :: rest) →
      Matches (.anySequence :: pattern) rest :=
    fun hmatches => (matches_anySequence_cons_iff.1 hmatches).resolve_left hhere
  cases ended with
  | matched => exact matches_anySequence_cons_iff.2 (Or.inr htells)
  | failed => exact fun hmatches => htells (hlater hmatches)
  | exhausted =>
      intro hmatches
      exact htells (.anySequence [] (hlater (matches_anySequence_twice hmatches)))

theorem search_tells {pattern : List Element}
    (hattempt : ∀ text, (attempt pattern text).Tells pattern text) (text : List Char) :
    (search (attempt pattern) text).Tells (.anySequence :: pattern) text := by
  induction text with
  | nil =>
      have hhere := hattempt []
      by_cases hmatched : attempt pattern [] = .matched
      · rw [hmatched] at hhere
        rw [search, if_pos hmatched]
        exact .anySequence [] hhere
      · rw [search, if_neg hmatched]
        intro hmatches
        obtain ⟨rest, hrest, h⟩ := matches_anySequence_iff.1 (matches_anySequence_twice hmatches)
        rw [List.suffix_nil.1 hrest] at h
        exact hhere.not_matches hmatched h
  | cons c rest ih =>
      have hhere := hattempt (c :: rest)
      rw [search]
      cases hended : attempt pattern (c :: rest) with
      | matched =>
          rw [hended] at hhere
          exact .anySequence [] hhere
      | exhausted =>
          rw [hended] at hhere
          exact fun hmatches => hhere (matches_anySequence_twice hmatches)
      | failed =>
          rw [hended] at hhere
          exact ih.skip hhere

/-- An element for one character leaves it to the rest of the text what the attempt tells. -/
theorem Attempt.Tells.cons {element : Element} {pattern : List Element} {c : Char}
    {rest : List Char} {ended : Attempt} (htells : ended.Tells pattern rest)
    (hone : ∀ text, Matches (element :: pattern) text → ∃ d more, text = d :: more ∧
      Matches pattern more)
    (hhere : Matches pattern rest → Matches (element :: pattern) (c :: rest)) :
    ended.Tells (element :: pattern) (c :: rest) := by
  cases ended with
  | matched => exact hhere htells
  | failed =>
      intro hmatches
      obtain ⟨d, more, htext, h⟩ := hone _ hmatches
      cases htext
      exact htells h
  | exhausted =>
      intro hmatches
      obtain ⟨text, htext, h⟩ := matches_anySequence_iff.1 hmatches
      obtain ⟨d, more, rfl, hmatches⟩ := hone _ h
      have hmore : more <:+ rest := by
        rcases List.suffix_cons_iff.1 htext with heq | hsuffix
        · cases heq
          exact List.suffix_rfl
        · exact (List.suffix_cons d more).trans hsuffix
      exact htells (matches_anySequence_iff.2 ⟨more, hmore, hmatches⟩)

theorem attempt_tells (pattern : List Element) (text : List Char) :
    (attempt pattern text).Tells pattern text := by
  induction pattern generalizing text with
  | nil =>
      cases text with
      | nil => exact .nil
      | cons c rest => exact fun hmatches => nomatch hmatches
  | cons element pattern ih =>
      cases element with
      | anySequence => exact search_tells ih text
      | never => exact fun hmatches => nomatch hmatches
      | anyChar =>
          cases text with
          | nil => exact fun hmatches => nomatch hmatches
          | cons c rest =>
              exact (ih rest).cons (fun _ => matches_anyChar_iff.1) (.anyChar c)
      | char expected =>
          cases text with
          | nil => exact fun hmatches => nomatch hmatches
          | cons c rest =>
              rw [attempt]
              split
              · rename_i hsame
                refine (ih rest).cons (fun text hmatches => ?_) (.char hsame)
                obtain ⟨d, more, htext, -, hmore⟩ := matches_char_iff.1 hmatches
                exact ⟨d, more, htext, hmore⟩
              · rename_i hdiffer
                intro hmatches
                obtain ⟨d, more, htext, hsame, -⟩ := matches_char_iff.1 hmatches
                cases htext
                exact hdiffer hsame

/-- **The search for parts decides matching.** -/
theorem matchesElements_eq_true_iff (pattern : List Element) (text : List Char) :
    matchesElements pattern text = true ↔ Matches pattern text := by
  have htells := attempt_tells pattern text
  rw [matchesElements, decide_eq_true_eq]
  constructor
  · intro hmatched
    rwa [hmatched] at htells
  · intro hmatches
    by_contra hother
    exact htells.not_matches hother hmatches

instance (pattern : List Element) (text : List Char) : Decidable (Matches pattern text) :=
  decidable_of_iff _ (matchesElements_eq_true_iff pattern text)

/-! ## Reading patterns -/

/-- Reads a pattern of a language whose wildcards are given: a backslash makes the next character
literal, nothing matches a backslash at the end, and every other character is a wildcard or stands
for itself. -/
def elementsWith (wildcard? : Char → Option Element) : List Char → List Element
  | [] => []
  | ['\\'] => [.never]
  | '\\' :: c :: rest => .char c :: elementsWith wildcard? rest
  | c :: rest => (wildcard? c).getD (.char c) :: elementsWith wildcard? rest

/-- The wildcards of `LIKE`. -/
def wildcard? (c : Char) : Option Element :=
  if c = '%' then some .anySequence else if c = '_' then some .anyChar else none

section Reading

variable (wildcards : Char → Option Element)

theorem elementsWith_cons {c : Char} (hc : c ≠ '\\') (rest : List Char) :
    elementsWith wildcards (c :: rest) =
      (wildcards c).getD (.char c) :: elementsWith wildcards rest := by
  rw [elementsWith]
  · exact fun hlast _ => hc hlast
  · exact fun _ _ hescape _ => hc hescape

/-- Backslashes in pairs are read as one backslash each. -/
theorem elementsWith_replicate_append (pairs : Nat) (rest : List Char) :
    elementsWith wildcards (List.replicate (2 * pairs) '\\' ++ rest) =
      List.replicate pairs (.char '\\') ++ elementsWith wildcards rest := by
  induction pairs with
  | zero => simp
  | succ pairs ih =>
      have htwo : 2 * (pairs + 1) = 2 * pairs + 1 + 1 := rfl
      rw [htwo, List.replicate_succ, List.replicate_succ, List.replicate_succ, List.cons_append,
        List.cons_append, List.cons_append, elementsWith, ih]

theorem elementsWith_replicate (run : Nat) :
    elementsWith wildcards (List.replicate run '\\') =
      List.replicate (run / 2) (.char '\\') ++ if run % 2 = 0 then [] else [.never] := by
  have hpairs := elementsWith_replicate_append wildcards (run / 2)
    (List.replicate (run % 2) '\\')
  rw [List.replicate_append_replicate, Nat.div_add_mod] at hpairs
  rw [hpairs]
  rcases Nat.mod_two_eq_zero_or_one run with heven | hodd
  · simp [heven, elementsWith]
  · simp [hodd, elementsWith]

/-- After an odd run of backslashes a character is literal, after an even one it is what it is in
the language. -/
theorem elementsWith_replicate_cons {c : Char} (hc : c ≠ '\\') (run : Nat) (rest : List Char) :
    elementsWith wildcards (List.replicate run '\\' ++ c :: rest) =
      List.replicate (run / 2) (.char '\\') ++
        (if run % 2 = 0 then (wildcards c).getD (.char c) else .char c) ::
          elementsWith wildcards rest := by
  have hpairs := elementsWith_replicate_append wildcards (run / 2)
    (List.replicate (run % 2) '\\' ++ c :: rest)
  rw [← List.append_assoc, List.replicate_append_replicate, Nat.div_add_mod] at hpairs
  rw [hpairs]
  rcases Nat.mod_two_eq_zero_or_one run with heven | hodd
  · simp [heven, elementsWith_cons wildcards hc]
  · simp [hodd, elementsWith]

end Reading

/-- A character that stands for itself in a pattern. -/
def IsLiteral (c : Char) : Prop :=
  c ≠ '\\' ∧ c ≠ '%' ∧ c ≠ '_'

instance (c : Char) : Decidable (IsLiteral c) :=
  inferInstanceAs (Decidable (_ ∧ _))

/-- Induction over a pattern in the steps in which it is read. -/
@[elab_as_elim]
theorem elements_induction {motive : List Char → Prop} (nil : motive []) (last : motive ['\\'])
    (escaped : ∀ c rest, motive rest → motive ('\\' :: c :: rest))
    (percent : ∀ rest, motive rest → motive ('%' :: rest))
    (underscore : ∀ rest, motive rest → motive ('_' :: rest))
    (literal : ∀ c rest, IsLiteral c → motive rest → motive (c :: rest)) (pattern : List Char) :
    motive pattern := by
  fun_induction elements pattern with
  | case1 => exact nil
  | case2 => exact last
  | case3 c rest ih => exact escaped c rest ih
  | case4 rest ih => exact percent rest ih
  | case5 rest ih => exact underscore rest ih
  | case6 c rest hlast hescape hpercent hunderscore ih =>
      refine literal c rest ⟨?_, hpercent, hunderscore⟩ ih
      rintro rfl
      cases rest with
      | nil => exact hlast rfl rfl
      | cons d more => exact hescape d more rfl rfl

theorem elements_cons {c : Char} (hc : IsLiteral c) (rest : List Char) :
    elements (c :: rest) = .char c :: elements rest := by
  obtain ⟨hbackslash, hpercent, hunderscore⟩ := hc
  rw [elements]
  · exact fun hlast _ => hbackslash hlast
  · exact fun _ _ hescape _ => hbackslash hescape
  · exact hpercent
  · exact hunderscore

/-- `LIKE` patterns are read in the common way, with wildcards of their own. -/
theorem elements_eq_elementsWith (pattern : List Char) :
    elements pattern = elementsWith wildcard? pattern := by
  induction pattern using elements_induction with
  | nil => rfl
  | last => rfl
  | escaped c rest ih => rw [elements, elementsWith, ih]
  | percent rest ih => rw [elementsWith_cons _ (by decide), ← ih]; rfl
  | underscore rest ih => rw [elementsWith_cons _ (by decide), ← ih]; rfl
  | literal c rest hc ih =>
      rw [elements_cons hc, elementsWith_cons _ hc.1, ih, wildcard?, if_neg hc.2.1, if_neg hc.2.2]
      rfl

/-! ## Reading texts -/

theorem readText_append {before : List Char} (hnull : '\x00' ∉ before) (rest : List Char) :
    readText (before ++ rest) = before.map readChar ++ readText rest := by
  have hall : ∀ c ∈ before, decide (c ≠ '\x00') = true := by
    intro c hc
    rw [decide_eq_true_eq]
    rintro rfl
    exact hnull hc
  rw [readText, List.takeWhile_append_of_pos hall, List.map_append]
  rfl

theorem readText_cons {c : Char} (hnull : c ≠ '\x00') (rest : List Char) :
    readText (c :: rest) = readChar c :: readText rest :=
  readText_append (show '\x00' ∉ [c] by simpa using hnull.symm) rest

end Like
end ChannelCatalog
