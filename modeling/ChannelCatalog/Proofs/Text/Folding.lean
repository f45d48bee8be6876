import ChannelCatalog.Text.Lowercase

/-!
# The two foldings together

Folding the letters `A` to `Z` first changes nothing for the folding of all of Unicode.  A capital
letter and its small form have one small form, and they count alike in the context of a sigma.
-/

namespace ChannelCatalog
namespace Text

/-- Characters that the full folding does not tell apart, neither where they stand nor for the
characters around them. -/
structure FoldAlike (c d : Char) : Prop where
  small : lowerChar c = lowerChar d
  cased : isCased c = isCased d
  ignorable : isCaseIgnorable c = isCaseIgnorable d
  sigma : c = 'Σ' ↔ d = 'Σ'

theorem foldAlike_iff {c d : Char} :
    FoldAlike c d ↔
      lowerChar c = lowerChar d ∧ isCased c = isCased d ∧
        isCaseIgnorable c = isCaseIgnorable d ∧ (c = 'Σ' ↔ d = 'Σ') :=
  ⟨fun h => ⟨h.small, h.cased, h.ignorable, h.sigma⟩, fun h => ⟨h.1, h.2.1, h.2.2.1, h.2.2.2⟩⟩

instance (c d : Char) : Decidable (FoldAlike c d) :=
  decidable_of_iff _ foldAlike_iff.symm

/-- Only the letters `A` to `Z` have a small form of their own in the smaller folding. -/
theorem toLower_eq_self_or (c : Char) : c.toLower = c ∨ ∃ k < 26, c = Char.ofNat (0x41 + k) := by
  unfold Char.toLower
  split
  · rename_i hcapital
    obtain ⟨hfirst, hlast⟩ := hcapital
    refine Or.inr ⟨c.toNat - 0x41, ?_, ?_⟩
    · have hle : c.toNat ≤ 0x5A := hlast
      omega
    · have hge : 0x41 ≤ c.toNat := hfirst
      rw [Nat.add_sub_cancel' hge, Char.ofNat_toNat]
  · exact Or.inl rfl

/-- What is to be shown of all characters and their small forms comes down to those that stay as they
are, and to the 26 letters. -/
theorem toLower_cases {motive : Char → Char → Prop} (other : ∀ c, c.toLower = c → motive c c)
    (capital : ∀ k < 26, motive (Char.ofNat (0x41 + k)) (Char.ofNat (0x41 + k)).toLower)
    (c : Char) : motive c c.toLower := by
  rcases toLower_eq_self_or c with hsame | ⟨k, hk, rfl⟩
  · rw [hsame]
    exact other c hsame
  · exact capital k hk

theorem foldAlike_toLower (c : Char) : FoldAlike c.toLower c :=
  -- The tables are looked up for each of the 26 letters.
  toLower_cases (motive := fun c small => FoldAlike small c)
    (fun _ _ => ⟨rfl, rfl, rfl, Iff.rfl⟩) (by decide) c

theorem casedAhead_map_toLower (text : List Char) :
    casedAhead (text.map Char.toLower) = casedAhead text := by
  induction text with
  | nil => rfl
  | cons c rest ih =>
      have hc := foldAlike_toLower c
      rw [List.map_cons, casedAhead, casedAhead, hc.ignorable, hc.cased, ih]

theorem lowerFrom_map_toLower (casedBefore : Bool) (text : List Char) :
    lowerFrom casedBefore (text.map Char.toLower) = lowerFrom casedBefore text := by
  induction text generalizing casedBefore with
  | nil => rfl
  | cons c rest ih =>
      have hc := foldAlike_toLower c
      simp only [List.map_cons, lowerFrom, hc.small, hc.cased, hc.ignorable, hc.sigma,
        casedAhead_map_toLower, ih]

/-- The full folding does not see whether the smaller one was applied before. -/
@[simp] theorem lowercase_asciiLower (text : String) :
    lowercase (asciiLower text) = lowercase text := by
  rw [lowercase, lowercase, toList_asciiLower, lowerFrom_map_toLower]

end Text
end ChannelCatalog
