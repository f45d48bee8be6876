import ChannelCatalog.Glob
import ChannelCatalog.Like

/-!
# Globs without special characters

A glob in which no character is special, neither in globs nor in `LIKE` patterns, is its own
pattern.  So there are globs of every length whose patterns have the same length; in particular
there is one whose pattern is too long for a store.
-/

namespace ChannelCatalog
namespace Glob

/-- A character that stands for itself in a glob and in a `LIKE` pattern. -/
def IsPlain (c : Char) : Prop :=
  c ≠ '\\' ∧ isWildcard c = false ∧ c ≠ '%' ∧ c ≠ '_'

instance (c : Char) : Decidable (IsPlain c) :=
  inferInstanceAs (Decidable (_ ∧ _))

theorem Token.ofChar_of_isPlain {c : Char} (h : IsPlain c) : Token.ofChar c = .literal c := by
  obtain ⟨-, hwildcard, hpercent, hunderscore⟩ := h
  simp only [isWildcard, Bool.or_eq_false_iff, decide_eq_false_iff_not] at hwildcard
  simp [ofChar, hwildcard, hpercent, hunderscore]

theorem tokensAfter_of_isPlain {glob : List Char} (h : ∀ c ∈ glob, IsPlain c) :
    tokensAfter 0 glob = glob.map Token.literal := by
  induction glob with
  | nil => rfl
  | cons c rest ih =>
      have hc : IsPlain c := h c List.mem_cons_self
      have hrest := ih fun d hd => h d (List.mem_cons_of_mem c hd)
      rw [tokensAfter, if_neg hc.1, if_neg (by simp), Token.ofChar_of_isPlain hc, hrest]
      rfl

/-- A glob of plain characters is its own pattern. -/
theorem toLike_of_isPlain {glob : String} (h : ∀ c ∈ glob.toList, IsPlain c) :
    toLike glob = glob := by
  have hspelling : ∀ text : List Char, (text.map Token.literal).flatMap Token.likeSpelling = text := by
    intro text
    induction text with
    | nil => rfl
    | cons c rest ih => simpa [Token.likeSpelling] using ih
  rw [toLike, tokens, tokensAfter_of_isPlain h, hspelling, String.ofList_toList]

end Glob

namespace Like

/-- A text has at least as many bytes as characters. -/
theorem length_le_utf8ByteSize (text : List Char) :
    text.length ≤ (String.ofList text).utf8ByteSize := by
  induction text with
  | nil => simp
  | cons c rest ih =>
      have hsplit : String.ofList (c :: rest) = String.ofList [c] ++ String.ofList rest := by
        rw [← String.ofList_append]
        rfl
      have hfirst : 1 ≤ (String.ofList [c]).utf8ByteSize := by
        rw [← String.singleton_eq_ofList, String.utf8ByteSize_singleton]
        exact c.utf8Size_pos
      rw [hsplit, String.utf8ByteSize_append, List.length_cons]
      omega

theorem isTooLong_replicate (c : Char) :
    isTooLong (String.ofList (List.replicate (maxPatternBytes + 1) c)) = true := by
  have hlength := length_le_utf8ByteSize (List.replicate (maxPatternBytes + 1) c)
  rw [List.length_replicate] at hlength
  rw [isTooLong, decide_eq_true_eq]
  exact hlength

end Like

namespace Glob

/-- A glob of plain characters, one more than a pattern may have bytes. -/
def overlong : String :=
  String.ofList (List.replicate (Like.maxPatternBytes + 1) 'a')

theorem isTooLong_overlong : Like.isTooLong (toLike overlong) = true := by
  have hplain : ∀ c ∈ overlong.toList, IsPlain c := by
    intro c hc
    rw [overlong, String.toList_ofList] at hc
    rw [List.eq_of_mem_replicate hc]
    decide
  rw [toLike_of_isPlain hplain]
  exact Like.isTooLong_replicate 'a'

end Glob
end ChannelCatalog
