import ChannelCatalog.Proofs.Like.Matching
import ChannelCatalog.Proofs.Text.AsciiForms

/-!
# Replacing the characters of a pattern

A replacement of characters that leaves the special ones alone, and makes no other special, commutes
with the reading of a pattern.  Folding the letters `A` to `Z` is such a replacement; since letters
compare without regard to ASCII case, it changes nothing of what the pattern matches.
-/

namespace ChannelCatalog
namespace Like

open Text

/-- An element with its character replaced. -/
def Element.map (f : Char → Char) : Element → Element
  | .anySequence => .anySequence
  | .anyChar => .anyChar
  | .char c => .char (f c)
  | .never => .never

theorem Matches.map {f : Char → Char}
    (hsame : ∀ c d, sameChar c d = true → sameChar (f c) (f d) = true) {pattern : List Element}
    {text : List Char} (h : Matches pattern text) :
    Matches (pattern.map (Element.map f)) (text.map f) := by
  induction h with
  | nil => exact .nil
  | anySequence skipped hrest ih =>
      rw [List.map_append]
      exact .anySequence (skipped.map f) ih
  | anyChar c hrest ih => exact .anyChar (f c) ih
  | char hcd hrest ih => exact .char (hsame _ _ hcd) ih

/-- A replacement that does not show in comparisons does not show in the search for parts. -/
theorem attempt_map {f : Char → Char} (hsame : ∀ c d, sameChar (f c) d = sameChar c d)
    (pattern : List Element) (text : List Char) :
    attempt (pattern.map (Element.map f)) text = attempt pattern text := by
  induction pattern generalizing text with
  | nil => rfl
  | cons element rest ih =>
      have hrest : attempt (rest.map (Element.map f)) = attempt rest := funext ih
      cases element with
      | anySequence => simp only [List.map_cons, Element.map, attempt, hrest]
      | anyChar => cases text <;> simp only [List.map_cons, Element.map, attempt, hrest]
      | never => cases text <;> simp only [List.map_cons, Element.map, attempt]
      | char c => cases text <;> simp only [List.map_cons, Element.map, attempt, hrest, hsame]

/-- A replacement of characters that leaves the special ones alone and makes no other special. -/
structure KeepsSpecial (f : Char → Char) : Prop where
  special : ∀ c, ¬ IsLiteral c → f c = c
  literal : ∀ c, IsLiteral c → IsLiteral (f c)

theorem elements_map {f : Char → Char} (hf : KeepsSpecial f) (pattern : List Char) :
    elements (pattern.map f) = (elements pattern).map (Element.map f) := by
  have hbackslash : f '\\' = '\\' := hf.special _ (by decide)
  have hpercent : f '%' = '%' := hf.special _ (by decide)
  have hunderscore : f '_' = '_' := hf.special _ (by decide)
  induction pattern using elements_induction with
  | nil => rfl
  | last => rw [List.map_singleton, hbackslash]; rfl
  | escaped c rest ih =>
      rw [List.map_cons, List.map_cons, hbackslash, elements, elements, ih]
      rfl
  | percent rest ih =>
      rw [List.map_cons, hpercent, elements, elements, ih]
      rfl
  | underscore rest ih =>
      rw [List.map_cons, hunderscore, elements, elements, ih]
      rfl
  | literal c rest hc ih =>
      rw [List.map_cons, elements_cons (hf.literal c hc), elements_cons hc, ih]
      rfl

/-- A replacement of characters that makes no difference for what a store reads as it stands. -/
structure KeepsReading (f : Char → Char) : Prop where
  null : ∀ c, f c = '\x00' ↔ c = '\x00'
  readChar : ∀ c, readChar (f c) = f (readChar c)

theorem readText_map {f : Char → Char} (hf : KeepsReading f) (text : List Char) :
    readText (text.map f) = (readText text).map f := by
  have hnull : (fun c : Char => decide (c ≠ '\x00')) ∘ f = fun c => decide (c ≠ '\x00') := by
    funext c
    simp [hf.null]
  rw [readText, readText, List.takeWhile_map, hnull, List.map_map, List.map_map]
  exact List.map_congr_left fun c _ => hf.readChar c

/-! ## ASCII case -/

theorem keepsSpecial_toLower : KeepsSpecial Char.toLower where
  special :=
    toLower_cases (motive := fun c small => ¬ IsLiteral c → small = c) (fun _ _ _ => rfl)
      (by decide)
  literal :=
    toLower_cases (motive := fun c small => IsLiteral c → IsLiteral small) (fun _ _ hc => hc)
      (by decide)

theorem keepsReading_toLower : KeepsReading Char.toLower where
  null :=
    toLower_cases (motive := fun c small => small = '\x00' ↔ c = '\x00') (fun _ _ => Iff.rfl)
      (by decide)
  readChar := by
    refine toLower_cases (motive := fun c small => readChar small = (readChar c).toLower)
      (fun c hsame => ?_) (by decide)
    unfold readChar
    split
    · rfl
    · exact hsame.symm

theorem sameChar_toLower (c d : Char) : sameChar c.toLower d = sameChar c d := by
  rw [sameChar, sameChar, toLower_toLower]

/-- A pattern in lower case matches what it matched before. -/
theorem holdsFor_asciiLower (pattern : String) (text : List Char) :
    holdsFor (asciiLower pattern) text = holdsFor pattern text := by
  rw [holdsFor, holdsFor, toList_asciiLower, readText_map keepsReading_toLower,
    elements_map keepsSpecial_toLower, matchesElements, matchesElements,
    attempt_map sameChar_toLower]

theorem isTooLong_asciiLower (pattern : String) :
    isTooLong (asciiLower pattern) = isTooLong pattern := by
  rw [isTooLong, isTooLong, utf8ByteSize_asciiLower]

end Like
end ChannelCatalog
