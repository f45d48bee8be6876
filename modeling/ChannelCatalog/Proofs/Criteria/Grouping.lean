import ChannelCatalog.Proofs.Criteria.Buckets
import ChannelCatalog.Proofs.Text.AsciiForms

/-!
# Requests whose entries are brought together

A request may have several entries for one key under different spellings, or its entries may have
been brought together when it was built.  Sorting a request brings entries together once more, by
other spellings of their keys.  That makes no difference: a request is sorted in the same way
however its entries were grouped before.
-/

namespace ChannelCatalog

open Text

/-! ## Reserved keys -/

/-- A key is reserved for names if it is spelled so in any letter case. -/
theorem asciiLower_eq_nameKey_iff {key : String} :
    asciiLower key = nameKey ↔ lowercase key = nameKey :=
  (lowercase_eq_iff (by decide) (by decide)).symm

/-- A key is reserved for tags if it is spelled so in any letter case. -/
theorem asciiLower_eq_tagKey_iff {key : String} :
    asciiLower key = tagKey ↔ lowercase key = tagKey :=
  (lowercase_eq_iff (by decide) (by decide)).symm

namespace Request

/-- The kind of an entry does not depend on how its key is spelled. -/
theorem nameGlobs_eq_valuesAt (entries : List Entry) :
    nameGlobs ⟨entries⟩ = Entry.valuesAt nameKey entries := by
  simp only [nameGlobs, asciiLower_eq_nameKey_iff]
  rfl

theorem tags_eq_valuesAt (entries : List Entry) :
    tags ⟨entries⟩ = Entry.valuesAt tagKey entries := by
  simp only [tags, asciiLower_eq_tagKey_iff]
  rfl

theorem properties_eq_filter (entries : List Entry) :
    properties ⟨entries⟩ =
      entries.filter fun entry => entry.foldedKey ≠ nameKey ∧ entry.foldedKey ≠ tagKey := by
  simp only [properties, Ne, asciiLower_eq_nameKey_iff, asciiLower_eq_tagKey_iff]
  rfl

end Request

namespace Entry

/-! ## Bringing entries together -/

/-- Brings entries together by their folded keys, the first spelling of each being kept. -/
def gather (known : List Entry) (entry : Entry) : List Entry :=
  extend entry.key entry.values known

/-- The entry with its key and its values replaced. -/
def mapTexts (onKey onValue : String → String) (entry : Entry) : Entry :=
  ⟨onKey entry.key, entry.values.map onValue⟩

/-- It does not matter whether texts are replaced before or after values are added, if keys keep
their folded form. -/
theorem extend_mapTexts {onKey : String → String}
    (hkey : ∀ key, lowercase (onKey key) = lowercase key) (onValue : String → String) (key : String)
    (values : List String) (known : List Entry) :
    extend (onKey key) (values.map onValue) (known.map (mapTexts onKey onValue)) =
      (extend key values known).map (mapTexts onKey onValue) := by
  induction known with
  | nil => rfl
  | cons entry rest ih =>
      have hhas : (mapTexts onKey onValue entry).hasKey (onKey key) = entry.hasKey key := by
        rw [hasKey, hasKey, mapTexts, hkey, hkey]
      rw [List.map_cons, extend, hhas, extend]
      split
      · simp [mapTexts]
      · rw [ih, List.map_cons]

/-- The entry with its key in lower case as far as every store agrees. -/
def lowerKey : Entry → Entry :=
  mapTexts asciiLower id

theorem foldedKey_lowerKey (entry : Entry) : entry.lowerKey.foldedKey = entry.foldedKey :=
  lowercase_asciiLower entry.key

theorem values_lowerKey (entry : Entry) : entry.lowerKey.values = entry.values :=
  List.map_id entry.values

theorem map_foldedKey_map_lowerKey (entries : List Entry) :
    (entries.map lowerKey).map foldedKey = entries.map foldedKey := by
  rw [List.map_map]
  exact List.map_congr_left fun entry _ => entry.foldedKey_lowerKey

theorem valuesAt_map_lowerKey (folded : String) (entries : List Entry) :
    valuesAt folded (entries.map lowerKey) = valuesAt folded entries := by
  induction entries with
  | nil => rfl
  | cons entry rest ih =>
      rw [List.map_cons, valuesAt_cons, valuesAt_cons, foldedKey_lowerKey, values_lowerKey, ih]

/-- Sorting brings entries together as building a request does, and puts their keys in lower case. -/
theorem foldl_merge_eq (entries : List Entry) :
    entries.foldl merge [] = (entries.foldl gather []).map lowerKey := by
  have hstep : ∀ (known : List Entry) (entry : Entry),
      merge (known.map lowerKey) entry = (gather known entry).map lowerKey := by
    intro known entry
    have hextend := extend_mapTexts lowercase_asciiLower id entry.key entry.values known
    rwa [List.map_id] at hextend
  rw [← List.foldl_hom (List.map lowerKey) hstep, List.map_nil]

theorem nodup_foldedKeys_foldl_gather (entries : List Entry) :
    ((entries.foldl gather []).map foldedKey).Nodup := by
  rw [← map_foldedKey_map_lowerKey, ← foldl_merge_eq]
  exact nodup_foldedKeys_foldl_merge entries List.nodup_nil

/-- Bringing entries together loses no value and keeps their order. -/
theorem valuesAt_foldl_gather (folded : String) (entries : List Entry) :
    valuesAt folded (entries.foldl gather []) = valuesAt folded entries := by
  have hstart : (([] : List Entry).map foldedKey).Nodup := List.nodup_nil
  rw [← valuesAt_map_lowerKey, ← foldl_merge_eq, valuesAt_foldl_merge folded entries hstart]
  rfl

theorem extend_of_notMem {key : String} (values : List String) {known : List Entry}
    (hnew : lowercase key ∉ known.map foldedKey) :
    extend key values known = known ++ [⟨key, values⟩] := by
  induction known with
  | nil => rfl
  | cons entry rest ih =>
      obtain ⟨hother, hrest⟩ := not_or.1 (mt List.mem_cons.2 hnew)
      rw [extend, if_neg (mt hasKey_iff.1 (Ne.symm hother)), ih hrest, List.cons_append]

/-- Entries that have been brought together stay as they are. -/
theorem foldl_gather_of_nodup {entries known : List Entry}
    (hdistinct : ((known ++ entries).map foldedKey).Nodup) :
    entries.foldl gather known = known ++ entries := by
  induction entries generalizing known with
  | nil => rw [List.foldl_nil, List.append_nil]
  | cons entry rest ih =>
      have hsplit : known ++ entry :: rest = (known ++ [entry]) ++ rest := by simp
      have hnew : lowercase entry.key ∉ known.map foldedKey := by
        rw [List.map_append, List.map_cons, List.nodup_append] at hdistinct
        exact fun hmem => hdistinct.2.2 _ hmem _ List.mem_cons_self rfl
      rw [List.foldl_cons, gather, extend_of_notMem _ hnew, hsplit, ih (hsplit ▸ hdistinct)]

theorem foldl_gather_foldl_gather (entries : List Entry) :
    (entries.foldl gather []).foldl gather [] = entries.foldl gather [] :=
  foldl_gather_of_nodup (nodup_foldedKeys_foldl_gather entries)

section Filter

variable (kind : String → Prop) [DecidablePred kind]

theorem filter_extend (key : String) (values : List String) (known : List Entry) :
    (extend key values known).filter (fun entry => kind entry.foldedKey) =
      if kind (lowercase key) then
        extend key values (known.filter fun entry => kind entry.foldedKey)
      else known.filter fun entry => kind entry.foldedKey := by
  induction known with
  | nil => by_cases hkind : kind (lowercase key) <;> simp [extend, foldedKey, hkind]
  | cons entry rest ih =>
      by_cases hkey : entry.foldedKey = lowercase key
      · -- The entry with more values is of the same kind.
        have hsame : ({ entry with values := entry.values ++ values } : Entry).foldedKey =
          lowercase key := hkey
        by_cases hkind : kind (lowercase key)
        · simp [extend, hasKey_iff, hsame, hkey, hkind]
        · simp [extend, hasKey_iff, hsame, hkey, hkind]
      · rw [extend, if_neg (mt hasKey_iff.1 hkey), List.filter_cons, ih, List.filter_cons]
        split
        · split
          · rw [extend, if_neg (mt hasKey_iff.1 hkey)]
          · rfl
        · rfl

/-- Entries of one kind are brought together among themselves. -/
theorem filter_foldl_gather (entries known : List Entry) :
    (entries.foldl gather known).filter (fun entry => kind entry.foldedKey) =
      (entries.filter fun entry => kind entry.foldedKey).foldl gather
        (known.filter fun entry => kind entry.foldedKey) := by
  induction entries generalizing known with
  | nil => rfl
  | cons entry rest ih =>
      have hkey : lowercase entry.key = entry.foldedKey := rfl
      rw [List.foldl_cons, ih, gather, filter_extend, List.filter_cons, hkey]
      by_cases hkind : kind entry.foldedKey
      · rw [if_pos hkind, if_pos (decide_eq_true hkind)]
        rfl
      · rw [if_neg hkind, if_neg (by simpa using hkind)]

end Filter

end Entry

namespace Request

/-- The request built by adding entries in order. -/
def ofEntries (entries : List Entry) : Request :=
  entries.foldl (fun request entry => request.extend entry.key entry.values) empty

theorem entries_ofEntries (entries : List Entry) :
    (ofEntries entries).entries = entries.foldl Entry.gather [] :=
  (List.foldl_hom Request.entries fun _ _ => rfl).symm

end Request

namespace Criteria

/-- **Sorting does not see how a request was grouped.**  A list of entries taken as a request has
the same criteria as the request built by adding the entries in order. -/
theorem ofRequest_eq_ofRequest_ofEntries (entries : List Entry) :
    ofRequest ⟨entries⟩ = ofRequest (.ofEntries entries) := by
  have hproperties : ((entries.foldl Entry.gather []).filter fun entry =>
        entry.foldedKey ≠ nameKey ∧ entry.foldedKey ≠ tagKey) =
      (entries.filter fun entry =>
        entry.foldedKey ≠ nameKey ∧ entry.foldedKey ≠ tagKey).foldl Entry.gather [] :=
    Entry.filter_foldl_gather (fun folded => folded ≠ nameKey ∧ folded ≠ tagKey) entries []
  rw [ofRequest, ofRequest, Request.entries_ofEntries, foldl_addEntry, foldl_addEntry]
  simp only [Request.nameGlobs_eq_valuesAt, Request.tags_eq_valuesAt,
    Request.properties_eq_filter, Entry.valuesAt_foldl_gather]
  rw [hproperties, Entry.foldl_merge_eq, Entry.foldl_merge_eq, Entry.foldl_gather_foldl_gather]

end Criteria

end ChannelCatalog
