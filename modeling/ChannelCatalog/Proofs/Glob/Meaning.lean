import ChannelCatalog.Proofs.Glob.Plain
import ChannelCatalog.Proofs.Like.Matching

/-!
# What a glob means as a LIKE pattern

Globs have a meaning of their own: `*` is any sequence, `?` any character, a backslash makes the
next character literal, and all other characters stand for themselves, `%` and `_` among them.  The
pattern for a glob has the same meaning, with one exception.  A run of backslashes is copied as it
is, and a `%` or `_` after it gets a backslash of its own.  If the run is odd, its last backslash
takes that backslash for a literal character, and the `%` or `_` is a wildcard of the pattern.
-/

namespace ChannelCatalog
namespace Glob

open Like (Element elementsWith)

/-- The wildcards of globs. -/
def wildcard? (c : Char) : Option Element :=
  if c = '*' then some .anySequence else if c = '?' then some .anyChar else none

/-- Reads a glob into its elements. -/
def elements (glob : List Char) : List Element :=
  elementsWith wildcard? glob

/-- All of a text matches a glob. -/
def Matches (glob text : List Char) : Prop :=
  Like.Matches (elements glob) text

instance (glob text : List Char) : Decidable (Matches glob text) :=
  inferInstanceAs (Decidable (Like.Matches _ _))

/-- A character that is ordinary in a glob and special in a `LIKE` pattern. -/
def IsLikeSpecial (c : Char) : Prop :=
  c = '%' ∨ c = '_'

instance (c : Char) : Decidable (IsLikeSpecial c) :=
  inferInstanceAs (Decidable (_ ∨ _))

/-! ## Special characters that are set free -/

/-- An odd run of backslashes, with no further one before it, stands directly before a character
that is special in `LIKE` patterns. -/
def FreesSpecial (glob : List Char) : Prop :=
  ∃ (before : List Char) (run : Nat) (c : Char) (after : List Char),
    glob = before ++ List.replicate run '\\' ++ c :: after ∧ before.getLast? ≠ some '\\' ∧
      run % 2 = 1 ∧ IsLikeSpecial c

/-- How many special characters stand directly after an odd run of backslashes in the rest of a
glob that follows `run` backslashes. -/
def freedAfter (run : Nat) : List Char → Nat
  | [] => 0
  | c :: rest =>
    if c = '\\' then freedAfter (run + 1) rest
    else (if run % 2 = 1 ∧ IsLikeSpecial c then 1 else 0) + freedAfter 0 rest

theorem freedAfter_replicate_append (run count : Nat) (rest : List Char) :
    freedAfter run (List.replicate count '\\' ++ rest) = freedAfter (run + count) rest := by
  induction count generalizing run with
  | zero => rfl
  | succ count ih =>
      rw [List.replicate_succ, List.cons_append, freedAfter, if_pos rfl, ih, Nat.add_right_comm]
      rfl

/-- What comes after a character that is no backslash does not depend on what is before it. -/
theorem freedAfter_append {before : List Char} (hlast : before.getLast? ≠ some '\\')
    (hsome : before ≠ []) (run : Nat) (rest : List Char) :
    freedAfter run (before ++ rest) = freedAfter run before + freedAfter 0 rest := by
  induction before generalizing run with
  | nil => exact absurd rfl hsome
  | cons c more ih =>
      cases more with
      | nil =>
          have hc : c ≠ '\\' := by simpa using hlast
          simp [freedAfter, hc]
      | cons d more =>
          have hmore := ih (by simpa [List.getLast?_cons_cons] using hlast) (List.cons_ne_nil d more)
          rw [List.cons_append, freedAfter, freedAfter]
          split
          · exact hmore (run + 1)
          · rw [hmore 0, Nat.add_assoc]

theorem pos_freedAfter_of_freesSpecial {glob : List Char} (h : FreesSpecial glob) :
    0 < freedAfter 0 glob := by
  obtain ⟨before, run, c, after, rfl, hlast, hodd, hspecial⟩ := h
  have hc : c ≠ '\\' := by rcases hspecial with rfl | rfl <;> decide
  have hhere : 0 < freedAfter 0 (List.replicate run '\\' ++ c :: after) := by
    rw [freedAfter_replicate_append, freedAfter, if_neg hc, Nat.zero_add, if_pos ⟨hodd, hspecial⟩]
    omega
  by_cases hsome : before = []
  · rwa [hsome]
  · rw [List.append_assoc, freedAfter_append hlast hsome]
    omega

theorem freesSpecial_of_pos_freedAfter {run : Nat} {glob : List Char}
    (h : 0 < freedAfter run glob) : FreesSpecial (List.replicate run '\\' ++ glob) := by
  induction glob generalizing run with
  | nil => cases h
  | cons c rest ih =>
      rw [freedAfter] at h
      split at h
      · rename_i hc
        have hrun := ih h
        rw [List.replicate_succ', List.append_assoc, List.singleton_append] at hrun
        rwa [hc]
      · rename_i hc
        by_cases hfreed : run % 2 = 1 ∧ IsLikeSpecial c
        · exact ⟨[], run, c, rest, rfl, by simp, hfreed⟩
        · -- The run sought stands further on, and `c` keeps it apart from the run here.
          rw [if_neg hfreed, Nat.zero_add] at h
          obtain ⟨before, count, d, after, hrest, hlast, hodd⟩ := ih h
          refine ⟨List.replicate run '\\' ++ c :: before, count, d, after, ?_, ?_, hodd⟩
          · rw [List.replicate_zero, List.nil_append] at hrest
            rw [hrest]
            simp
          · cases before with
            | nil => simpa using hc
            | cons e more => simpa [List.getLast?_append] using hlast

theorem freesSpecial_iff {glob : List Char} : FreesSpecial glob ↔ freedAfter 0 glob ≠ 0 := by
  rw [← Nat.pos_iff_ne_zero]
  exact ⟨pos_freedAfter_of_freesSpecial, freesSpecial_of_pos_freedAfter⟩

instance (glob : List Char) : Decidable (FreesSpecial glob) :=
  decidable_of_iff _ freesSpecial_iff.symm

/-! ## Reading the pattern for a glob -/

/-- The pattern for the rest of a glob that follows `run` backslashes. -/
def spelledAfter (run : Nat) (glob : List Char) : List Char :=
  (tokensAfter run glob).flatMap Token.likeSpelling

theorem toList_toLike_eq (glob : String) :
    (toLike glob).toList = spelledAfter 0 glob.toList :=
  toList_toLike glob

theorem flatMap_likeSpelling_ofRun (run : Nat) :
    (Token.ofRun run).flatMap Token.likeSpelling = List.replicate run '\\' := by
  cases run with
  | zero => rfl
  | succ count => simp [Token.ofRun, Token.likeSpelling]

theorem spelledAfter_nil (run : Nat) : spelledAfter run [] = List.replicate run '\\' :=
  flatMap_likeSpelling_ofRun run

theorem spelledAfter_backslash (run : Nat) (rest : List Char) :
    spelledAfter run ('\\' :: rest) = spelledAfter (run + 1) rest := by
  rw [spelledAfter, tokensAfter, if_pos rfl]
  rfl

/-- The pattern for a character, no backslash, that follows `run` backslashes, and for the run. -/
def spelledWith (run : Nat) (c : Char) : List Char :=
  if isWildcard c ∧ run % 2 = 1 then List.replicate (run - 1) '\\' ++ [c]
  else List.replicate run '\\' ++ (Token.ofChar c).likeSpelling

theorem spelledAfter_cons (run : Nat) {c : Char} (hc : c ≠ '\\') (rest : List Char) :
    spelledAfter run (c :: rest) = spelledWith run c ++ spelledAfter 0 rest := by
  rw [spelledAfter, tokensAfter, if_neg hc, spelledWith]
  split
  · rw [List.flatMap_append, flatMap_likeSpelling_ofRun, List.append_assoc]
    rfl
  · rw [List.flatMap_append, flatMap_likeSpelling_ofRun, List.append_assoc]
    rfl

/-- What is read of a character that stands in a glob after `run` backslashes. -/
def readAfter (run : Nat) (c : Char) : List Element :=
  if run % 2 = 0 then [(wildcard? c).getD (.char c)]
  else if IsLikeSpecial c then [.char '\\', (Like.wildcard? c).getD (.char c)]
  else [.char c]

theorem elements_likeSpelling_append {c : Char} (hc : c ≠ '\\') (rest : List Char) :
    Like.elements ((Token.ofChar c).likeSpelling ++ rest) =
      (wildcard? c).getD (.char c) :: Like.elements rest := by
  unfold Token.ofChar wildcard?
  split
  · rfl
  · split
    · rfl
    · split
      · rfl
      · rename_i hspecial
        exact Like.elements_cons ⟨hc, not_or.1 hspecial⟩ rest

/-- After a single backslash a wildcard is left alone, and any other character is escaped; but a
special character brings a backslash of its own, and that is the one that is escaped. -/
theorem elements_spelledWith_one_append {c : Char} (hc : c ≠ '\\') (rest : List Char) :
    Like.elements (spelledWith 1 c ++ rest) = readAfter 1 c ++ Like.elements rest := by
  by_cases hwildcard : isWildcard c = true
  · rcases (by simpa [isWildcard] using hwildcard : c = '*' ∨ c = '?') with rfl | rfl
    · rfl
    · rfl
  · by_cases hspecial : IsLikeSpecial c
    · rcases hspecial with rfl | rfl
      · rfl
      · rfl
    · have hplain : IsPlain c := ⟨hc, Bool.eq_false_iff.2 hwildcard, not_or.1 hspecial⟩
      rw [spelledWith, if_neg (by simp [hwildcard]), Token.ofChar_of_isPlain hplain, readAfter,
        if_neg (by decide), if_neg hspecial]
      rfl

/-- The pairs of a run stand before what becomes of the character and the backslash that is left. -/
theorem spelledWith_eq (run : Nat) (c : Char) :
    spelledWith run c = List.replicate (2 * (run / 2)) '\\' ++ spelledWith (run % 2) c := by
  have hrun : List.replicate run '\\' =
      List.replicate (2 * (run / 2)) '\\' ++ List.replicate (run % 2) '\\' := by
    rw [List.replicate_append_replicate, Nat.div_add_mod]
  rw [spelledWith, spelledWith, Nat.mod_mod]
  split
  · rename_i hescaped
    have hpairs : run - 1 = 2 * (run / 2) := by omega
    rw [hpairs, hescaped.2]
    rfl
  · rw [hrun, List.append_assoc]

/-- A run of backslashes is read in pairs, in the pattern as in the glob; the character after it is
read as `readAfter` says. -/
theorem elements_spelledWith_append (run : Nat) {c : Char} (hc : c ≠ '\\') (rest : List Char) :
    Like.elements (spelledWith run c ++ rest) =
      List.replicate (run / 2) (.char '\\') ++ (readAfter run c ++ Like.elements rest) := by
  have hhere : Like.elements (spelledWith (run % 2) c ++ rest) =
      readAfter run c ++ Like.elements rest := by
    rcases Nat.mod_two_eq_zero_or_one run with heven | hodd
    · rw [heven, spelledWith, if_neg (by simp), readAfter, if_pos heven]
      exact elements_likeSpelling_append hc rest
    · rw [hodd, elements_spelledWith_one_append hc, readAfter, readAfter, hodd]
  rw [spelledWith_eq, List.append_assoc, Like.elements_eq_elementsWith,
    Like.elementsWith_replicate_append, ← Like.elements_eq_elementsWith, hhere]

/-- Where no special character is set free, the pattern for a glob is read as the glob is. -/
theorem elements_spelledAfter {run : Nat} {glob : List Char} (h : freedAfter run glob = 0) :
    Like.elements (spelledAfter run glob) = elements (List.replicate run '\\' ++ glob) := by
  -- A run is not read before the character after it is known, so the run read so far is general.
  induction glob generalizing run with
  | nil =>
      rw [spelledAfter_nil, List.append_nil, Like.elements_eq_elementsWith, elements,
        Like.elementsWith_replicate, Like.elementsWith_replicate]
  | cons c rest ih =>
      rw [freedAfter] at h
      split at h
      · rename_i hc
        rw [hc, spelledAfter_backslash, ih h, List.replicate_succ', List.append_assoc]
        rfl
      · rename_i hc
        have hrest := ih (Nat.eq_zero_of_add_eq_zero_left h)
        have hkept : ¬ (run % 2 = 1 ∧ IsLikeSpecial c) := by
          intro hfreed
          rw [if_pos hfreed] at h
          omega
        rw [spelledAfter_cons run hc, elements_spelledWith_append run hc, hrest, elements, elements,
          Like.elementsWith_replicate_cons _ hc, readAfter]
        rcases Nat.mod_two_eq_zero_or_one run with heven | hodd
        · simp [heven]
        · simp [hodd, not_and.1 hkept hodd]

/-! ## Globs as a store reads them -/

theorem mem_spelledWith {run : Nat} {c d : Char} (h : d ∈ spelledWith run c) :
    d = '\\' ∨ d = '%' ∨ d = '_' ∨ d = c := by
  rw [spelledWith] at h
  split at h
  · rcases List.mem_append.1 h with hrun | hown
    · exact Or.inl (List.eq_of_mem_replicate hrun)
    · exact Or.inr (Or.inr (Or.inr (List.mem_singleton.1 hown)))
  · rcases List.mem_append.1 h with hrun | hown
    · exact Or.inl (List.eq_of_mem_replicate hrun)
    · unfold Token.ofChar at hown
      split_ifs at hown <;> simp only [Token.likeSpelling, List.mem_cons, List.not_mem_nil] at hown
      all_goals tauto

theorem spelledWith_of_isPlain (run : Nat) {c : Char} (h : IsPlain c) :
    spelledWith run c = List.replicate run '\\' ++ [c] := by
  rw [spelledWith, if_neg (by simp [h.2.1]), Token.ofChar_of_isPlain h]
  rfl

/-- A replacement of characters that leaves all but plain ones alone, and takes these to plain ones. -/
def KeepsPlain (f : Char → Char) : Prop :=
  ∀ c, f c = c ∨ IsPlain c ∧ IsPlain (f c)

/-- Such a replacement may be made in a glob or in its pattern. -/
theorem KeepsPlain.map_spelledWith {f : Char → Char} (hf : KeepsPlain f) (run : Nat) (c : Char) :
    (spelledWith run c).map f = spelledWith run (f c) := by
  have hspecial : ∀ d, ¬ IsPlain d → f d = d := fun d hd =>
    (hf d).resolve_right fun hplain => hd hplain.1
  rcases hf c with hsame | ⟨hplain, hread⟩
  · rw [hsame, List.map_congr_left (g := id), List.map_id]
    intro d hd
    rcases mem_spelledWith hd with rfl | rfl | rfl | rfl
    · exact hspecial _ (by decide)
    · exact hspecial _ (by decide)
    · exact hspecial _ (by decide)
    · exact hsame
  · rw [spelledWith_of_isPlain run hplain, spelledWith_of_isPlain run hread, List.map_append,
      List.map_replicate, hspecial _ (by decide), List.map_singleton]

theorem keepsPlain_readChar : KeepsPlain Like.readChar := by
  intro c
  unfold Like.readChar
  split
  · rename_i hlast
    rcases hlast with rfl | rfl <;> exact Or.inr (by decide)
  · exact Or.inl rfl

/-- A store reads the pattern for a glob as the pattern for what it would read of the glob. -/
theorem readText_spelledAfter (run : Nat) (glob : List Char) :
    Like.readText (spelledAfter run glob) = spelledAfter run (Like.readText glob) := by
  induction glob generalizing run with
  | nil =>
      have hrun := Like.readText_append (show '\x00' ∉ List.replicate run '\\' by simp) []
      rw [List.append_nil, List.map_replicate] at hrun
      rw [spelledAfter_nil, hrun]
      exact (List.append_nil _).trans (spelledAfter_nil run).symm
  | cons c rest ih =>
      by_cases hc : c = '\\'
      · subst hc
        rw [spelledAfter_backslash, ih, Like.readText_cons (by decide)]
        exact (spelledAfter_backslash run _).symm
      · have hread : Like.readChar c ≠ '\\' := by
          rcases keepsPlain_readChar c with hsame | ⟨-, hplain⟩
          · rwa [hsame]
          · exact hplain.1
        by_cases hnull : c = '\x00'
        · -- What stands before the null character is the run alone.
          subst hnull
          rw [spelledAfter_cons run hc, spelledWith_of_isPlain run (by decide), List.append_assoc,
            Like.readText_append (by simp), List.map_replicate]
          exact (List.append_nil _).trans (spelledAfter_nil run).symm
        · have hkept : '\x00' ∉ spelledWith run c := by
            intro hmem
            rcases mem_spelledWith hmem with h | h | h | h
            · cases h
            · cases h
            · cases h
            · exact hnull h.symm
          rw [spelledAfter_cons run hc, Like.readText_append hkept, keepsPlain_readChar.map_spelledWith, ih,
            Like.readText_cons hnull, spelledAfter_cons run hread]

/-- What a store leaves unread of a glob sets no special character free. -/
theorem freedAfter_readText_le (run : Nat) (glob : List Char) :
    freedAfter run (Like.readText glob) ≤ freedAfter run glob := by
  induction glob generalizing run with
  | nil => exact Nat.le_refl _
  | cons c rest ih =>
      by_cases hnull : c = '\x00'
      · subst hnull
        exact Nat.zero_le _
      · rw [Like.readText_cons hnull]
        rcases keepsPlain_readChar c with hsame | ⟨hplain, hread⟩
        · rw [hsame, freedAfter, freedAfter]
          split
          · exact ih (run + 1)
          · exact Nat.add_le_add_left (ih 0) _
        · have hspecial : ¬ (run % 2 = 1 ∧ IsLikeSpecial (Like.readChar c)) :=
            fun h => not_or.2 hread.2.2 h.2
          rw [freedAfter, freedAfter, if_neg hread.1, if_neg hplain.1, if_neg hspecial, Nat.zero_add]
          exact Nat.le_trans (ih 0) (Nat.le_add_left _ _)

/-- **A pattern means what its glob means.**  Where no special character is set free, the pattern
for a glob matches the texts that match the glob: every text as it is, and every text as a store
reads it, where the glob is read alike. -/
theorem holds_toLike_iff_matches (glob : String) (hkept : ¬ FreesSpecial glob.toList) :
    (∀ text : String,
      Like.holds (toLike glob) text = true ↔ Matches glob.toList text.toList) ∧
    ∀ text : List Char,
      Like.holdsFor (toLike glob) text = true ↔ Matches (Like.readText glob.toList) text := by
  have hnone : freedAfter 0 glob.toList = 0 := by
    by_contra hfreed
    exact hkept (freesSpecial_iff.2 hfreed)
  constructor
  · intro text
    rw [Like.holds, Like.matchesElements_eq_true_iff, toList_toLike_eq, elements_spelledAfter hnone]
    rfl
  · intro text
    have hread : freedAfter 0 (Like.readText glob.toList) = 0 := by
      have hle := freedAfter_readText_le 0 glob.toList
      omega
    rw [Like.holdsFor, Like.matchesElements_eq_true_iff, toList_toLike_eq, readText_spelledAfter,
      elements_spelledAfter hread]
    rfl

/-- A glob with an even run before a special character, both wildcards, and one of them escaped. -/
theorem holds_toLike_mixed :
    ¬ FreesSpecial "\\\\%*_\\*?".toList ∧
      Like.holds (toLike "\\\\%*_\\*?") "\\%*x_*y" = true ∧
      Matches "\\\\%*_\\*?".toList "\\%*x_*y".toList := by
  have hkept : ¬ FreesSpecial "\\\\%*_\\*?".toList := by decide
  have hmatches : Matches "\\\\%*_\\*?".toList "\\%*x_*y".toList := by decide
  exact ⟨hkept, ((holds_toLike_iff_matches _ hkept).1 _).2 hmatches, hmatches⟩

end Glob
end ChannelCatalog
