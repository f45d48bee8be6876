import ChannelCatalog.Proofs.Glob.Meaning

/-!
# The wildcards of a pattern

The pattern for a glob should have the wildcards of the glob and no others: a `%` or `_` that was
typed is to be matched literally.  The pattern has all wildcards of the glob, in their order.  It has
one more for each `%` or `_` that stands directly after an odd run of backslashes.
-/

namespace ChannelCatalog

namespace Like

/-- An element that stands for more than one text. -/
def Element.isWildcard : Element → Bool
  | .anySequence | .anyChar => true
  | .char _ | .never => false

/-- The wildcards that are read in a pattern, from left to right. -/
def wildcards (pattern : String) : List Element :=
  (elements pattern.toList).filter Element.isWildcard

end Like

namespace Glob

open Like (Element)

/-- The wildcard that a token stands for. -/
def Token.wildcard? : Token → Option Element
  | .anySequence => some .anySequence
  | .anyChar => some .anyChar
  | _ => none

/-- The wildcards among the tokens of a glob, from left to right. -/
def wildcards (glob : String) : List Element :=
  (tokens glob).filterMap Token.wildcard?

theorem Token.wildcard?_ofChar (c : Char) : (Token.ofChar c).wildcard? = Glob.wildcard? c := by
  unfold Token.ofChar Glob.wildcard?
  split_ifs <;> rfl

theorem wildcard?_eq_none {c : Char} (h : isWildcard c = false) : wildcard? c = none := by
  simp only [isWildcard, Bool.or_eq_false_iff, decide_eq_false_iff_not] at h
  rw [wildcard?, if_neg h.1, if_neg h.2]

/-- The wildcard of a character that stands in a glob after `run` backslashes. -/
def wildcardAfter (run : Nat) (c : Char) : List Element :=
  if run % 2 = 0 then (wildcard? c).toList else []

theorem filterMap_wildcard?_ofRun (run : Nat) :
    (Token.ofRun run).filterMap Token.wildcard? = [] := by
  cases run with
  | zero => rfl
  | succ count => rfl

theorem filterMap_wildcard?_tokensAfter_cons (run : Nat) {c : Char} (hc : c ≠ '\\')
    (rest : List Char) :
    (tokensAfter run (c :: rest)).filterMap Token.wildcard? =
      wildcardAfter run c ++ (tokensAfter 0 rest).filterMap Token.wildcard? := by
  rw [tokensAfter, if_neg hc]
  split
  · rename_i hescaped
    rw [List.filterMap_append, filterMap_wildcard?_ofRun, wildcardAfter, if_neg (by omega)]
    rfl
  · rename_i hkept
    have hown : (Token.ofChar c).wildcard?.toList = wildcardAfter run c := by
      rw [Token.wildcard?_ofChar, wildcardAfter]
      split
      · rfl
      · rename_i hodd
        have hplain : isWildcard c = false := by
          rw [Bool.eq_false_iff]
          exact fun hwildcard => hkept ⟨hwildcard, by omega⟩
        rw [wildcard?_eq_none hplain]
        rfl
    rw [List.filterMap_append, filterMap_wildcard?_ofRun, List.nil_append, List.filterMap_cons,
      ← hown]
    cases (Token.ofChar c).wildcard? with
    | none => rfl
    | some element => rfl

theorem filter_isWildcard_getD (wildcard : Option Element) (c : Char)
    (h : ∀ element ∈ wildcard, element.isWildcard = true) :
    [wildcard.getD (.char c)].filter Element.isWildcard = wildcard.toList := by
  cases wildcard with
  | none => rfl
  | some element => simp [h element rfl]

theorem isWildcard_of_mem_wildcard? (c : Char) :
    ∀ element ∈ wildcard? c, element.isWildcard = true := by
  unfold wildcard?
  split_ifs <;> rintro element ⟨⟩ <;> rfl

/-- What is read of a character has its wildcard, and another one if the character is set free. -/
theorem filter_isWildcard_readAfter (run : Nat) (c : Char) :
    (wildcardAfter run c).Sublist ((readAfter run c).filter Element.isWildcard) ∧
      ((readAfter run c).filter Element.isWildcard).length =
        (wildcardAfter run c).length + if run % 2 = 1 ∧ IsLikeSpecial c then 1 else 0 := by
  rw [wildcardAfter, readAfter]
  rcases Nat.mod_two_eq_zero_or_one run with heven | hodd
  · have hown := filter_isWildcard_getD _ c (isWildcard_of_mem_wildcard? c)
    rw [if_pos heven, if_pos heven, hown]
    simp [heven]
  · rw [if_neg (by omega), if_neg (by omega)]
    by_cases hspecial : IsLikeSpecial c
    · rw [if_pos hspecial, if_pos ⟨hodd, hspecial⟩]
      rcases hspecial with rfl | rfl
      · exact ⟨List.nil_sublist _, rfl⟩
      · exact ⟨List.nil_sublist _, rfl⟩
    · simp [hspecial, Element.isWildcard]

theorem filter_isWildcard_replicate (count : Nat) :
    (List.replicate count (Element.char '\\')).filter Element.isWildcard = [] := by
  simp [Element.isWildcard]

theorem filter_isWildcard_spelledAfter (run : Nat) (glob : List Char) :
    ((tokensAfter run glob).filterMap Token.wildcard?).Sublist
        ((Like.elements (spelledAfter run glob)).filter Element.isWildcard) ∧
      ((Like.elements (spelledAfter run glob)).filter Element.isWildcard).length =
        ((tokensAfter run glob).filterMap Token.wildcard?).length + freedAfter run glob := by
  induction glob generalizing run with
  | nil =>
      rw [tokensAfter, filterMap_wildcard?_ofRun, spelledAfter_nil, Like.elements_eq_elementsWith,
        Like.elementsWith_replicate, List.filter_append, filter_isWildcard_replicate]
      split <;> exact ⟨List.nil_sublist _, rfl⟩
  | cons c rest ih =>
      by_cases hc : c = '\\'
      · subst hc
        rw [spelledAfter_backslash, tokensAfter, if_pos rfl, freedAfter, if_pos rfl]
        exact ih (run + 1)
      · obtain ⟨hrest, hcount⟩ := ih 0
        obtain ⟨hown, hone⟩ := filter_isWildcard_readAfter run c
        rw [spelledAfter_cons run hc, elements_spelledWith_append run hc,
          filterMap_wildcard?_tokensAfter_cons run hc, List.filter_append, filter_isWildcard_replicate,
          List.nil_append, List.filter_append, freedAfter, if_neg hc]
        refine ⟨hown.append hrest, ?_⟩
        rw [List.length_append, List.length_append, hcount, hone]
        omega

/-- **Which characters become wildcards.**  The wildcards read in the pattern for a glob are those of
the glob, in their order, and one more for each special character that is set free.  They are those
of the glob exactly when none is. -/
theorem wildcards_toLike (glob : String) :
    (wildcards glob).Sublist (Like.wildcards (toLike glob)) ∧
      (Like.wildcards (toLike glob)).length =
        (wildcards glob).length + freedAfter 0 glob.toList ∧
      (Like.wildcards (toLike glob) = wildcards glob ↔ ¬ FreesSpecial glob.toList) := by
  have hread : Like.wildcards (toLike glob) =
      (Like.elements (spelledAfter 0 glob.toList)).filter Element.isWildcard := by
    rw [Like.wildcards, toList_toLike_eq]
  obtain ⟨hsublist, hlength⟩ := filter_isWildcard_spelledAfter 0 glob.toList
  rw [← hread] at hsublist hlength
  refine ⟨hsublist, hlength, ?_⟩
  rw [freesSpecial_iff, not_not]
  constructor
  · intro hsame
    rw [hsame] at hlength
    exact Nat.left_eq_add.1 hlength
  · intro hnone
    rw [hnone, Nat.add_zero] at hlength
    exact (hsublist.eq_of_length hlength.symm).symm

/-- A backslash sets the percent sign after it free: it stands for a sequence that the glob does not
have. -/
theorem wildcards_toLike_freed :
    Like.wildcards (toLike "\\%") = [.anySequence] ∧ wildcards "\\%" = [] ∧
      Like.holds (toLike "\\%") "\\abc" = true := by
  decide

end Glob
end ChannelCatalog
