import ChannelCatalog.Proofs.Criteria.Grouping
import ChannelCatalog.Proofs.Glob.LetterCase
import ChannelCatalog.Store.Cell

/-!
# Requests in other letter case

A store compares keys and tags by its folding, and all other globs without regard to ASCII case.  A
request is folded when its texts are put in lower case as far as that.  Sorting has comparisons of
its own, which are not those of the store: reserved keys are told by the smaller folding, and keys
and tags are brought together by the full one.  Still, a folded request is sorted into the folded
criteria.
-/

namespace ChannelCatalog

open Text

/-! ## The folding of a store -/

namespace Store
namespace Folding

variable (folding : Folding)

@[simp] theorem lower_lower (text : String) :
    folding.lower (folding.lower text) = folding.lower text := by
  cases folding with
  | ascii => exact asciiLower_asciiLower text
  | unicode => exact lowercase_lowercase text

@[simp] theorem lowercase_lower (text : String) :
    lowercase (folding.lower text) = lowercase text := by
  cases folding with
  | ascii => exact lowercase_asciiLower text
  | unicode => exact lowercase_lowercase text

@[simp] theorem lower_asciiLower (text : String) :
    folding.lower (asciiLower text) = folding.lower text := by
  cases folding with
  | ascii => exact asciiLower_asciiLower text
  | unicode => exact lowercase_asciiLower text

@[simp] theorem asciiLower_lower (text : String) :
    asciiLower (folding.lower text) = folding.lower text := by
  cases folding with
  | ascii => exact asciiLower_asciiLower text
  | unicode => exact asciiLower_lowercase text

theorem lower_toLike (glob : String) :
    folding.lower (Glob.toLike glob) = Glob.toLike (folding.lower glob) := by
  cases folding with
  | ascii => exact Glob.asciiLower_toLike glob
  | unicode => exact Glob.lowercase_toLike glob

theorem isPattern_lower (tag : String) :
    Glob.isPattern (folding.lower tag) = Glob.isPattern tag := by
  rw [← Glob.isPattern_lowercase, lowercase_lower, Glob.isPattern_lowercase]

theorem asciiLower_lower_eq_nameKey_iff {key : String} :
    asciiLower (folding.lower key) = nameKey ↔ asciiLower key = nameKey := by
  rw [asciiLower_eq_nameKey_iff, lowercase_lower, ← asciiLower_eq_nameKey_iff]

theorem asciiLower_lower_eq_tagKey_iff {key : String} :
    asciiLower (folding.lower key) = tagKey ↔ asciiLower key = tagKey := by
  rw [asciiLower_eq_tagKey_iff, lowercase_lower, ← asciiLower_eq_tagKey_iff]

end Folding
end Store

open Store (Folding)

/-! ## Folded requests -/

/-- The entry in lower case as far as a store compares it. -/
def Entry.folded (folding : Folding) (entry : Entry) : Entry :=
  entry.mapTexts folding.lower (if asciiLower entry.key = tagKey then folding.lower else asciiLower)

/-- The request in lower case as far as a store compares it. -/
def Request.folded (folding : Folding) (request : Request) : Request :=
  ⟨request.entries.map (Entry.folded folding)⟩

/-- The request with the letters `A` to `Z` in lower case everywhere. -/
def Request.asciiLowered (request : Request) : Request :=
  ⟨request.entries.map (Entry.mapTexts asciiLower asciiLower)⟩

/-- Spelled alike in lower case: the keys of two entries, and their values if they are tags.  Other
values are the same. -/
structure Entry.SpelledAlike (entry other : Entry) : Prop where
  key : lowercase entry.key = lowercase other.key
  tags : asciiLower entry.key = tagKey → entry.values.map lowercase = other.values.map lowercase
  values : asciiLower entry.key ≠ tagKey → entry.values = other.values

/-- ASCII case does not show in a folded entry. -/
theorem Entry.folded_mapTexts_asciiLower (folding : Folding) (entry : Entry) :
    (entry.mapTexts asciiLower asciiLower).folded folding = entry.folded folding := by
  simp only [folded, mapTexts, asciiLower_asciiLower, folding.lower_asciiLower, List.map_map]
  refine congrArg (Entry.mk _) (List.map_congr_left fun value _ => ?_)
  by_cases htag : asciiLower entry.key = tagKey
  · simp [htag]
  · simp [htag]

theorem Request.folded_asciiLowered (folding : Folding) (request : Request) :
    request.asciiLowered.folded folding = request.folded folding := by
  rw [folded, asciiLowered, List.map_map, folded]
  exact congrArg Request.mk
    (List.map_congr_left fun entry _ => entry.folded_mapTexts_asciiLower folding)

theorem Entry.SpelledAlike.folded_eq {entry other : Entry} (h : entry.SpelledAlike other) :
    entry.folded .unicode = other.folded .unicode := by
  have hkind : asciiLower entry.key = tagKey ↔ asciiLower other.key = tagKey := by
    rw [asciiLower_eq_tagKey_iff, h.key, ← asciiLower_eq_tagKey_iff]
  have hkey : Folding.lower .unicode entry.key = Folding.lower .unicode other.key := h.key
  rw [Entry.folded, Entry.folded, Entry.mapTexts, Entry.mapTexts, hkey]
  by_cases htag : asciiLower entry.key = tagKey
  · rw [if_pos htag, if_pos (hkind.1 htag)]
    exact congrArg (Entry.mk _) (h.tags htag)
  · rw [if_neg htag, if_neg (mt hkind.2 htag), h.values htag]

theorem Request.folded_eq_of_spelledAlike {request other : Request}
    (h : List.Forall₂ Entry.SpelledAlike request.entries other.entries) :
    request.folded .unicode = other.folded .unicode := by
  have hentries : List.Forall₂ Eq (request.entries.map (Entry.folded .unicode))
      (other.entries.map (Entry.folded .unicode)) :=
    List.forall₂_map_left_iff.2 (List.forall₂_map_right_iff.2 (h.imp fun _ _ => (·.folded_eq)))
  exact congrArg Request.mk (List.forall₂_eq_eq_eq ▸ hentries)

namespace Criteria

/-- The criteria in lower case as far as a store compares them. -/
def folded (folding : Folding) (criteria : Criteria) : Criteria where
  names := criteria.names.map asciiLower
  exactTags := criteria.exactTags.map folding.lower
  tagPatterns := criteria.tagPatterns.map folding.lower
  properties := criteria.properties.map (Entry.mapTexts folding.lower asciiLower)

variable {folding : Folding}

theorem addTag_folded (criteria : Criteria) (tag : String) :
    (criteria.folded folding).addTag (folding.lower tag) = (criteria.addTag tag).folded folding := by
  have hknown : ((criteria.folded folding).exactTags.any fun known =>
        lowercase known = lowercase (asciiLower (folding.lower tag))) =
      criteria.exactTags.any fun known => lowercase known = lowercase (asciiLower tag) := by
    simp [folded, Function.comp_def]
  simp only [addTag, folding.isPattern_lower, hknown]
  split
  · simp [folded]
  · split
    · rfl
    · simp [folded]

theorem addEntry_folded (criteria : Criteria) (entry : Entry) :
    (criteria.folded folding).addEntry (entry.folded folding) =
      (criteria.addEntry entry).folded folding := by
  simp only [addEntry, Entry.folded, Entry.mapTexts, folding.asciiLower_lower_eq_nameKey_iff,
    folding.asciiLower_lower_eq_tagKey_iff]
  by_cases hname : asciiLower entry.key = nameKey
  · have htag : asciiLower entry.key ≠ tagKey := by
      rw [hname]
      decide
    simp only [if_pos hname, if_neg htag, folded, List.map_append]
  · by_cases htag : asciiLower entry.key = tagKey
    · simp only [if_neg hname, if_pos htag, List.foldl_map]
      exact List.foldl_hom (Criteria.folded folding) addTag_folded
    · simp only [if_neg hname, if_neg htag, addProperty, folded, folding.asciiLower_lower]
      have hextend := Entry.extend_mapTexts folding.lowercase_lower asciiLower
        (asciiLower entry.key) entry.values criteria.properties
      rw [folding.lower_asciiLower] at hextend
      rw [hextend]

/-- **A folded request is sorted into the folded criteria.** -/
theorem ofRequest_folded (request : Request) :
    ofRequest (request.folded folding) = (ofRequest request).folded folding := by
  have hstart : ({} : Criteria) = Criteria.folded folding {} := rfl
  rw [ofRequest, Request.folded, List.foldl_map, ofRequest, hstart]
  exact List.foldl_hom (Criteria.folded folding) addEntry_folded

end Criteria
end ChannelCatalog
