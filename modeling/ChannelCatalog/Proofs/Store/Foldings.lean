import ChannelCatalog.Proofs.Criteria.LetterCase
import ChannelCatalog.Proofs.Store.Listing

/-!
# The foldings of stores

A plain store folds the letters `A` to `Z`, and a catalog folds all of Unicode.  The two are ordered:
what the smaller folding takes for one text every store does, and what any store takes for one text the
full folding does.  Sorting a request keeps its keys and tags apart by the full folding, so that every
store tells them apart.  And each store may fold a glob before or after it becomes a pattern.
-/

namespace ChannelCatalog

open Text

namespace Store

/-! ## The order of the foldings -/

namespace Folding

variable (folding : Folding) {text other : String}

theorem lower_eq_of_asciiLower_eq (h : asciiLower text = asciiLower other) :
    folding.lower text = folding.lower other := by
  rw [← folding.lower_asciiLower text, h, folding.lower_asciiLower]

theorem lowercase_eq_of_lower_eq (h : folding.lower text = folding.lower other) :
    lowercase text = lowercase other := by
  rw [← folding.lowercase_lower text, h, folding.lowercase_lower]

/-- Texts that the full folding tells apart are told apart by every store. -/
theorem nodup_map_lower {texts : List String} (h : (texts.map lowercase).Nodup) :
    (texts.map folding.lower).Nodup := by
  have hfolded : (texts.map folding.lower).map lowercase = texts.map lowercase := by
    rw [List.map_map]
    exact List.map_congr_left fun text _ => folding.lowercase_lower text
  rw [← hfolded] at h
  exact h.of_map lowercase

end Folding

/-- Names that are one on some store are one on a catalog.  This is said of texts: a plain store takes
bytes for a text, and a catalog does not. -/
theorem TextCell.lower_unicode_eq {folding : Folding} {cell other : TextCell}
    (hcell : cell.IsTextual) (hother : other.IsTextual)
    (h : cell.lower folding = other.lower folding) : cell.lower .unicode = other.lower .unicode := by
  cases cell with
  | blob bytes => exact hcell.elim
  | null =>
      cases other with
      | blob bytes => exact hother.elim
      | null => rfl
      | text content => cases folding.lower_null.symm.trans h
  | text content =>
      cases other with
      | blob bytes => exact hother.elim
      | null => cases h.trans folding.lower_null
      | text content' =>
          exact congrArg TextCell.text (folding.lowercase_eq_of_lower_eq (TextCell.text.inj h))

end Store

open Store (Cell Folding Tables TextCell)

/-! ## Criteria that are kept apart -/

namespace Criteria

variable (folding : Folding)

theorem nodup_map_lower_keys (request : Request) :
    ((ofRequest request).properties.map fun entry => folding.lower entry.key).Nodup := by
  have hkeys : ((ofRequest request).properties.map Entry.foldedKey).Nodup :=
    nodup_foldedKeys_ofRequest request
  rw [Entry.map_foldedKey] at hkeys
  have hlowered := folding.nodup_map_lower hkeys
  rwa [List.map_map] at hlowered

theorem nodup_map_lower_exactTags (request : Request) :
    ((ofRequest request).exactTags.map folding.lower).Nodup :=
  folding.nodup_map_lower (nodup_map_lowercase_exactTags_ofRequest request)

theorem nodup_map_lower_exactTags_ofTags (tags : List String) :
    ((ofTags tags).exactTags.map folding.lower).Nodup := by
  refine folding.nodup_map_lower ?_
  rw [ofTags, foldl_addTag, foldl_keepTag]
  exact nodup_map_lowercase_foldl_keepFirst _ List.nodup_nil

end Criteria

/-- **The foldings agree.**  The catalog's folding may be applied again, and the smaller one may be
applied before it or after it, without a difference.  So names that are one on a plain store are one
on a catalog; and every store tells texts apart that the full folding does, in particular the property
keys of a request and its tags. -/
theorem Store.foldings_agree :
    (∀ text : String,
      Cell.lower .unicode (Cell.lower .unicode (.text text)) = Cell.lower .unicode (.text text) ∧
      Cell.lower .unicode (.text (asciiLower text)) = Cell.lower .unicode (.text text) ∧
      Cell.text (asciiLower (Folding.lower .unicode text)) = Cell.lower .unicode (.text text)) ∧
    (∀ text other : String, asciiLower text = asciiLower other → lowercase text = lowercase other) ∧
    (∀ name other : TextCell, name.IsTextual → other.IsTextual →
      name.lower .ascii = other.lower .ascii → name.lower .unicode = other.lower .unicode) ∧
    ∀ folding : Folding,
      (∀ text other : String, lowercase text ≠ lowercase other →
        folding.lower text ≠ folding.lower other) ∧
      (∀ request : Request,
        ((Criteria.ofRequest request).properties.map fun entry => folding.lower entry.key).Nodup ∧
        ((Criteria.ofRequest request).exactTags.map folding.lower).Nodup) ∧
      ∀ tags : List String, ((Criteria.ofTags tags).exactTags.map folding.lower).Nodup := by
  refine ⟨fun text => ⟨?_, ?_, ?_⟩, fun text other h => ?_, fun name other hname hother h => ?_,
    fun folding => ⟨fun text other hapart h => ?_, fun request => ⟨?_, ?_⟩, fun tags => ?_⟩⟩
  · exact congrArg Cell.text (Folding.unicode.lower_lower text)
  · exact congrArg Cell.text (Folding.unicode.lower_asciiLower text)
  · exact congrArg Cell.text (Folding.unicode.asciiLower_lower text)
  · exact Folding.unicode.lower_eq_of_asciiLower_eq h
  · exact TextCell.lower_unicode_eq hname hother h
  · exact hapart (folding.lowercase_eq_of_lower_eq h)
  · exact Criteria.nodup_map_lower_keys folding request
  · exact Criteria.nodup_map_lower_exactTags folding request
  · exact Criteria.nodup_map_lower_exactTags_ofTags folding tags

/-- A final sigma before letters in two spellings, and two words that differ in the form of a sigma
once they are folded. -/
theorem Store.foldings_agree_sigmas :
    let name := "ΟΔΟΣ RING"
    let other := "ΟΔΟΣ Ring"
    (asciiLower name = asciiLower other ∧ lowercase name = lowercase other) ∧
      ((TextCell.text name).lower .ascii = (TextCell.text other).lower .ascii ∧
        (TextCell.text name).lower .unicode = (TextCell.text other).lower .unicode) ∧
      lowercase "ΑΣ" ≠ lowercase "ασ" ∧
        ∀ folding : Folding, folding.lower "ΑΣ" ≠ folding.lower "ασ" := by
  intro name other
  obtain ⟨-, hfolded, hnames, hapart⟩ := foldings_agree
  have hascii : asciiLower name = asciiLower other := by decide
  have hcells : (TextCell.text name).lower .ascii = (TextCell.text other).lower .ascii := by decide
  have hsigmas : lowercase "ΑΣ" ≠ lowercase "ασ" := by decide
  exact ⟨⟨hascii, hfolded name other hascii⟩,
    ⟨hcells, hnames _ _ (by decide) (by decide) hcells⟩,
    hsigmas, fun folding => (hapart folding).1 _ _ hsigmas⟩

/-! ## Patterns -/

/-- A query for a folded tag pattern looks at the pattern as the store folds it, and at nothing else
of it. -/
theorem Store.Tables.fetchIds_tagLike_congr {folding : Folding} {pattern other : String}
    (h : folding.lower pattern = folding.lower other) (tables : Tables) :
    tables.fetchIds folding (.tagLike pattern) = tables.fetchIds folding (.tagLike other) := by
  simp only [fetchIds, PropertyRecord.isTagLike, h]

/-- **A glob may be folded before or after it becomes a pattern.**  The query for a tag glob puts the
pattern in lower case first, and then the store folds it: what names are compared with is still the
pattern of the folded glob. -/
theorem Store.Folding.lower_toLike_asCompared (folding : Folding) (glob : String) :
    let pattern := asciiLower (Glob.toLike glob)
    let folded := Glob.toLike (folding.lower glob)
    Cell.lower folding (.text (Glob.toLike glob)) = .text folded ∧
      Cell.lower folding (.text pattern) = .text folded ∧
      (IdQuery.ofTagPattern glob).fragment.params = [.text pattern] ∧
      ∀ tables : Tables, tables.fetchIds folding (.ofTagPattern glob) =
        tables.fetchIds folding (.tagLike folded) := by
  intro pattern folded
  have hpattern : folding.lower pattern = folded := by
    rw [folding.lower_asciiLower, folding.lower_toLike]
  have hfolded : folding.lower folded = folded := by
    rw [folding.lower_toLike, folding.lower_lower]
  exact ⟨congrArg Cell.text (folding.lower_toLike glob), congrArg Cell.text hpattern, rfl,
    Tables.fetchIds_tagLike_congr (hpattern.trans hfolded.symm)⟩

/-- The star ends the word as the percent sign does, so the sigma before it is a final one. -/
example : Text.lowercase (Glob.toLike "\\?ΑΣ*Σ%") = "?ας%σ\\%" := by decide

end ChannelCatalog
