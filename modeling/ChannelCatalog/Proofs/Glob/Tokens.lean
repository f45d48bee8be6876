import ChannelCatalog.Proofs.Glob.Meaning
import Mathlib.Data.List.Chain

/-!
# Tokens and spellings

The tokens of a glob spell the glob.  Not every list of tokens is that of a glob: backslashes that
stand together are one token, and a wildcard after an odd number of them is escaped.  The lists that
keep these rules (`Token.Canonical`) are told from their spellings, so they are exactly the lists of
tokens that globs have.
-/

namespace ChannelCatalog
namespace Glob

namespace Token

/-- Tokens as they stand in a glob. -/
def spellAll (tokens : List Token) : String :=
  String.ofList (tokens.flatMap spelling)

/-- What a token holds is of its kind, and a run has at least one backslash. -/
def IsProper : Token → Prop
  | .backslashes count => 1 ≤ count
  | .escapedWildcard c => c = '*' ∨ c = '?'
  | .likeSpecial c => c = '%' ∨ c = '_'
  | .literal c => c ≠ '*' ∧ c ≠ '?' ∧ c ≠ '%' ∧ c ≠ '_' ∧ c ≠ '\\'
  | .anySequence | .anyChar => True

instance : (token : Token) → Decidable token.IsProper
  | .backslashes count => inferInstanceAs (Decidable (1 ≤ count))
  | .escapedWildcard c => inferInstanceAs (Decidable (c = '*' ∨ c = '?'))
  | .likeSpecial c => inferInstanceAs (Decidable (c = '%' ∨ c = '_'))
  | .literal c => inferInstanceAs (Decidable (c ≠ '*' ∧ c ≠ '?' ∧ c ≠ '%' ∧ c ≠ '_' ∧ c ≠ '\\'))
  | .anySequence | .anyChar => isTrue trivial

/-- Whether a token may come directly after a run of backslashes: a run may not, since the two would
be one, and a wildcard may if the run is even, be it escaped by a further backslash or not. -/
def MayFollowRun (count : Nat) : Token → Prop
  | .backslashes _ => False
  | .escapedWildcard _ | .anySequence | .anyChar => count % 2 = 0
  | .likeSpecial _ | .literal _ => True

/-- Whether a token may come directly after another one. -/
def MayFollow : Token → Token → Prop
  | .backslashes count, next => next.MayFollowRun count
  | _, _ => True

instance (count : Nat) : (token : Token) → Decidable (token.MayFollowRun count)
  | .backslashes _ => isFalse id
  | .escapedWildcard _ | .anySequence | .anyChar => inferInstanceAs (Decidable (count % 2 = 0))
  | .likeSpecial _ | .literal _ => isTrue trivial

instance : DecidableRel MayFollow
  | .backslashes count, next => inferInstanceAs (Decidable (next.MayFollowRun count))
  | .escapedWildcard _, _ | .anySequence, _ | .anyChar, _ | .likeSpecial _, _ | .literal _, _ =>
    isTrue trivial

/-- Tokens that keep the rules of reading. -/
structure Canonical (tokens : List Token) : Prop where
  proper : ∀ token ∈ tokens, token.IsProper
  parted : tokens.IsChain MayFollow

theorem canonical_iff {tokens : List Token} :
    Canonical tokens ↔ (∀ token ∈ tokens, token.IsProper) ∧ tokens.IsChain MayFollow :=
  ⟨fun h => ⟨h.proper, h.parted⟩, fun h => ⟨h.1, h.2⟩⟩

instance (tokens : List Token) : Decidable (Canonical tokens) :=
  decidable_of_iff _ canonical_iff.symm

/-- Whether a token is a run of backslashes. -/
def isRun : Token → Bool
  | .backslashes _ => true
  | .escapedWildcard _ | .anySequence | .anyChar | .likeSpecial _ | .literal _ => false

theorem canonical_nil : Canonical [] :=
  ⟨List.forall_mem_nil _, List.isChain_nil⟩

theorem Canonical.tail {token : Token} {rest : List Token} (h : Canonical (token :: rest)) :
    Canonical rest :=
  ⟨fun other hother => h.proper other (List.mem_cons_of_mem token hother), h.parted.tail⟩

/-- Only after a run is not every token allowed. -/
theorem Canonical.cons {token : Token} {rest : List Token} (h : Canonical rest)
    (htoken : token.IsProper) (hrun : token.isRun = false) : Canonical (token :: rest) := by
  refine ⟨List.forall_mem_cons.2 ⟨htoken, h.proper⟩, List.isChain_cons.2 ⟨fun next _ => ?_, h.parted⟩⟩
  cases token with
  | backslashes count => cases hrun
  | escapedWildcard c => trivial
  | anySequence => trivial
  | anyChar => trivial
  | likeSpecial c => trivial
  | literal c => trivial

/-- A run, which may be empty, before a token that may follow it. -/
theorem Canonical.ofRun_append {token : Token} {rest : List Token} (h : Canonical (token :: rest))
    (run : Nat) (hfollow : run = 0 ∨ token.MayFollowRun run) :
    Canonical (ofRun run ++ token :: rest) := by
  cases run with
  | zero => exact h
  | succ count =>
      have hrun : token.MayFollowRun (count + 1) := hfollow.resolve_left (Nat.succ_ne_zero count)
      exact ⟨List.forall_mem_cons.2 ⟨Nat.le_add_left 1 count, h.proper⟩,
        List.isChain_cons_cons.2 ⟨hrun, h.parted⟩⟩

theorem canonical_ofRun (run : Nat) : Canonical (ofRun run) := by
  cases run with
  | zero => exact canonical_nil
  | succ count =>
      exact ⟨List.forall_mem_singleton.2 (Nat.le_add_left 1 count), List.isChain_singleton _⟩

theorem flatMap_spelling_ofRun (run : Nat) : (ofRun run).flatMap spelling = List.replicate run '\\' := by
  cases run with
  | zero => rfl
  | succ count => exact List.append_nil _

/-! ## Tokens of single characters -/

theorem spelling_ofChar (c : Char) : (ofChar c).spelling = [c] := by
  unfold ofChar
  split_ifs with hsequence hchar hspecial
  · rw [hsequence]; rfl
  · rw [hchar]; rfl
  · rfl
  · rfl

theorem isRun_ofChar (c : Char) : (ofChar c).isRun = false := by
  unfold ofChar
  split_ifs <;> rfl

theorem isProper_ofChar {c : Char} (hc : c ≠ '\\') : (ofChar c).IsProper := by
  unfold ofChar
  split_ifs with hsequence hchar hspecial
  · trivial
  · trivial
  · exact hspecial
  · exact ⟨hsequence, hchar, (not_or.1 hspecial).1, (not_or.1 hspecial).2, hc⟩

/-- A character may follow any run unless it is a wildcard, and then an even one. -/
theorem mayFollowRun_ofChar_iff {c : Char} {run : Nat} :
    (ofChar c).MayFollowRun run ↔ ¬ (isWildcard c ∧ run % 2 = 1) := by
  have hwildcard : isWildcard c = true → (¬ (isWildcard c ∧ run % 2 = 1) ↔ run % 2 = 0) :=
    fun h => by simp [h]
  unfold ofChar
  split_ifs with hsequence hchar hspecial
  · exact (hwildcard (by rw [hsequence]; rfl)).symm
  · exact (hwildcard (by rw [hchar]; rfl)).symm
  · exact iff_of_true trivial fun h => by simp [isWildcard, hsequence, hchar] at h
  · exact iff_of_true trivial fun h => by simp [isWildcard, hsequence, hchar] at h

theorem isProper_escapedWildcard_iff {c : Char} :
    (escapedWildcard c).IsProper ↔ isWildcard c = true := by
  simp [IsProper, isWildcard]

/-- A token is a run, an escaped wildcard, or the token of a character. -/
theorem eq_escapedWildcard_or_eq_ofChar {token : Token} (htoken : token.IsProper)
    (hrun : token.isRun = false) :
    (∃ c, isWildcard c = true ∧ token = .escapedWildcard c) ∨ ∃ c, c ≠ '\\' ∧ token = ofChar c := by
  cases token with
  | backslashes count => cases hrun
  | escapedWildcard c => exact Or.inl ⟨c, isProper_escapedWildcard_iff.1 htoken, rfl⟩
  | anySequence => exact Or.inr ⟨'*', by decide, rfl⟩
  | anyChar => exact Or.inr ⟨'?', by decide, rfl⟩
  | likeSpecial c =>
      rcases htoken with rfl | rfl
      · exact Or.inr ⟨'%', by decide, rfl⟩
      · exact Or.inr ⟨'_', by decide, rfl⟩
  | literal c =>
      obtain ⟨hsequence, hchar, hpercent, hunderscore, hc⟩ := htoken
      have hplain : IsPlain c := ⟨hc, by simp [isWildcard, hsequence, hchar], hpercent, hunderscore⟩
      exact Or.inr ⟨c, hc, (ofChar_of_isPlain hplain).symm⟩

theorem exists_eq_backslashes {token : Token} (hrun : token.isRun = true) :
    ∃ count, token = .backslashes count := by
  cases token with
  | backslashes count => exact ⟨count, rfl⟩
  | escapedWildcard c => cases hrun
  | anySequence => cases hrun
  | anyChar => cases hrun
  | likeSpecial c => cases hrun
  | literal c => cases hrun

end Token

/-! ## Globs from their tokens -/

theorem flatMap_spelling_tokensAfter (run : Nat) (glob : List Char) :
    (tokensAfter run glob).flatMap Token.spelling = List.replicate run '\\' ++ glob := by
  induction glob generalizing run with
  | nil => rw [tokensAfter, Token.flatMap_spelling_ofRun, List.append_nil]
  | cons c rest ih =>
      rw [tokensAfter]
      split
      · rename_i hc
        rw [ih, hc, List.replicate_succ', List.append_assoc]
        rfl
      · split
        · rename_i hescaped
          -- The last backslash of the run goes to the wildcard.
          have hrun : List.replicate run '\\' = List.replicate (run - 1) '\\' ++ ['\\'] := by
            rw [← List.replicate_succ']
            exact congrArg (List.replicate · '\\') (by omega)
          rw [List.flatMap_append, List.flatMap_cons, Token.flatMap_spelling_ofRun, ih, hrun,
            List.append_assoc]
          rfl
        · rw [List.flatMap_append, List.flatMap_cons, Token.flatMap_spelling_ofRun,
            Token.spelling_ofChar, ih]
          rfl

/-- **The tokens of a glob spell it.** -/
theorem spellAll_tokens (glob : String) : Token.spellAll (tokens glob) = glob := by
  rw [Token.spellAll, tokens, flatMap_spelling_tokensAfter]
  exact String.ofList_toList

/-- **The tokens of a glob keep the rules**, whatever run of backslashes stands before it. -/
theorem canonical_tokensAfter (run : Nat) (glob : List Char) :
    Token.Canonical (tokensAfter run glob) := by
  induction glob generalizing run with
  | nil => exact Token.canonical_ofRun run
  | cons c rest ih =>
      rw [tokensAfter]
      split
      · exact ih (run + 1)
      · rename_i hc
        split
        · rename_i hescaped
          have hwildcard := Token.isProper_escapedWildcard_iff.2 hescaped.1
          have heven : (run - 1) % 2 = 0 := by omega
          exact ((ih 0).cons hwildcard rfl).ofRun_append (run - 1) (Or.inr heven)
        · rename_i hkept
          exact ((ih 0).cons (Token.isProper_ofChar hc) (Token.isRun_ofChar c)).ofRun_append run
            (Or.inr (Token.mayFollowRun_ofChar_iff.2 hkept))

/-! ## Tokens from their spellings -/

theorem tokensAfter_replicate_append (run count : Nat) (rest : List Char) :
    tokensAfter run (List.replicate count '\\' ++ rest) = tokensAfter (run + count) rest := by
  induction count generalizing run with
  | zero => rfl
  | succ count ih =>
      rw [List.replicate_succ, List.cons_append, tokensAfter, if_pos rfl, ih, Nat.add_right_comm]
      rfl

/-- A token that is no run is read from its spelling, after a run that it may follow. -/
theorem tokensAfter_spelling_append {run : Nat} {token : Token} (htoken : token.IsProper)
    (hrun : token.isRun = false) (hfollow : run = 0 ∨ token.MayFollowRun run) (rest : List Char) :
    tokensAfter run (token.spelling ++ rest) = Token.ofRun run ++ token :: tokensAfter 0 rest := by
  rcases Token.eq_escapedWildcard_or_eq_ofChar htoken hrun with ⟨c, hwildcard, rfl⟩ | ⟨c, hc, rfl⟩
  · -- The backslash that escapes makes an even run an odd one.
    have heven : run = 0 ∨ run % 2 = 0 := hfollow
    have hodd : (run + 1) % 2 = 1 := by omega
    have hc : c ≠ '\\' := by rintro rfl; cases hwildcard
    rw [Token.spelling, List.cons_append, tokensAfter, if_pos rfl, List.cons_append, tokensAfter,
      if_neg hc, if_pos ⟨hwildcard, hodd⟩]
    rfl
  · have hkept : ¬ (isWildcard c ∧ run % 2 = 1) := by
      rcases hfollow with rfl | hfollow
      · exact fun h => by cases h.2
      · exact Token.mayFollowRun_ofChar_iff.1 hfollow
    rw [Token.spelling_ofChar, List.singleton_append, tokensAfter, if_neg hc, if_neg hkept]

/-- **Tokens that keep the rules are read from their spellings.**  A run is not read before what comes
after it is known, so the induction carries it along. -/
theorem tokensAfter_flatMap_spelling {run : Nat} {tokens : List Token}
    (h : Token.Canonical (Token.ofRun run ++ tokens)) :
    tokensAfter run (tokens.flatMap Token.spelling) = Token.ofRun run ++ tokens := by
  induction tokens generalizing run with
  | nil => exact (List.append_nil _).symm
  | cons token rest ih =>
      -- The run is empty, or the token follows it.
      have hsplit : Token.Canonical (token :: rest) ∧ (run = 0 ∨ token.MayFollowRun run) := by
        cases run with
        | zero => exact ⟨h, Or.inl rfl⟩
        | succ count => exact ⟨h.tail, Or.inr (List.isChain_cons_cons.1 h.parted).1⟩
      obtain ⟨hhere, hfollow⟩ := hsplit
      have htoken : token.IsProper := hhere.proper token List.mem_cons_self
      rw [List.flatMap_cons]
      cases hrun : token.isRun with
      | false =>
          rw [tokensAfter_spelling_append htoken hrun hfollow]
          exact congrArg (Token.ofRun run ++ token :: ·) (ih hhere.tail)
      | true =>
          obtain ⟨count, rfl⟩ := Token.exists_eq_backslashes hrun
          obtain rfl : run = 0 := hfollow.resolve_right id
          obtain ⟨more, rfl⟩ := Nat.exists_eq_add_of_le' (show 1 ≤ count from htoken)
          rw [Token.spelling, tokensAfter_replicate_append, Nat.zero_add]
          exact ih hhere

/-- **Tokens are a faithful reading of globs, and a canonical one.**  The tokens of a glob spell it and
keep the rules, and each list of tokens that keeps the rules is that of the glob which it spells. -/
theorem tokens_faithful_canonical :
    (∀ glob : String,
      Token.spellAll (tokens glob) = glob ∧ Token.Canonical (tokens glob)) ∧
    ∀ list : List Token, Token.Canonical list → tokens (Token.spellAll list) = list := by
  refine ⟨fun glob => ⟨spellAll_tokens glob, canonical_tokensAfter 0 glob.toList⟩, fun list h => ?_⟩
  rw [tokens, Token.spellAll, String.toList_ofList]
  have hempty : Token.Canonical (Token.ofRun 0 ++ list) := h
  exact tokensAfter_flatMap_spelling hempty

/-- Runs before an escaped wildcard, before a bare one, before a letter and at the end. -/
theorem tokens_faithful_canonical_runs :
    Token.Canonical [.backslashes 2, .escapedWildcard '*', .backslashes 4, .anyChar,
      .backslashes 3, .literal 'a', .likeSpecial '%', .backslashes 1] ∧
    tokens "\\\\\\*\\\\\\\\?\\\\\\a%\\" = [.backslashes 2, .escapedWildcard '*', .backslashes 4,
      .anyChar, .backslashes 3, .literal 'a', .likeSpecial '%', .backslashes 1] := by
  have hcanonical : Token.Canonical [.backslashes 2, .escapedWildcard '*', .backslashes 4, .anyChar,
      .backslashes 3, .literal 'a', .likeSpecial '%', .backslashes 1] := by decide
  have hspells : "\\\\\\*\\\\\\\\?\\\\\\a%\\" = Token.spellAll [.backslashes 2, .escapedWildcard '*',
      .backslashes 4, .anyChar, .backslashes 3, .literal 'a', .likeSpecial '%', .backslashes 1] := by
    decide +kernel
  refine ⟨hcanonical, ?_⟩
  rw [hspells]
  exact tokens_faithful_canonical.2 _ hcanonical

end Glob
end ChannelCatalog
