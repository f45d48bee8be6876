import ChannelCatalog.Criteria
import ChannelCatalog.Proofs.Text.Folding
import Mathlib.Data.List.Nodup

/-!
# How a request is sorted

Sorting a request into buckets forgets the order between entries of different kinds, puts tags in
lower case, and brings entries together whose keys differ only in letter case.  Nothing that the
request asks for is lost: the buckets hold the same globs for names, the same tags up to letter
case, and for each property key the same globs.
-/

namespace ChannelCatalog

open Text (asciiLower lowercase lowercase_asciiLower)

namespace Request

/-- The globs for the channel name. -/
def nameGlobs (request : Request) : List String :=
  (request.entries.filter fun entry => asciiLower entry.key = nameKey).flatMap Entry.values

/-- The tags and tag globs. -/
def tags (request : Request) : List String :=
  (request.entries.filter fun entry => asciiLower entry.key = tagKey).flatMap Entry.values

/-- The entries whose keys are not reserved. -/
def properties (request : Request) : List Entry :=
  request.entries.filter fun entry =>
    asciiLower entry.key ≠ nameKey ∧ asciiLower entry.key ≠ tagKey

end Request

/-! ## Texts that come again -/

/-- Appends a text unless it is known in some spelling. -/
def keepFirst (known : List String) (text : String) : List String :=
  if known.any fun other => lowercase other = lowercase text then known else known ++ [text]

theorem keepFirst_eq (known : List String) (text : String) :
    keepFirst known text =
      if lowercase text ∈ known.map lowercase then known else known ++ [text] := by
  simp [keepFirst]

theorem mem_map_lowercase_keepFirst {folded text : String} {known : List String} :
    folded ∈ (keepFirst known text).map lowercase ↔
      folded = lowercase text ∨ folded ∈ known.map lowercase := by
  rw [keepFirst_eq]
  split
  · rename_i hknown
    -- A text that is left out is known under another spelling.
    exact (or_iff_right_of_imp (· ▸ hknown)).symm
  · simp [or_comm]

theorem nodup_map_lowercase_keepFirst (text : String) {known : List String}
    (hdistinct : (known.map lowercase).Nodup) : ((keepFirst known text).map lowercase).Nodup := by
  rw [keepFirst_eq]
  split
  · exact hdistinct
  · rename_i hnew
    rw [List.map_append, List.nodup_append]
    refine ⟨hdistinct, List.nodup_singleton _, ?_⟩
    rintro folded hfolded other hother rfl
    exact hnew (List.mem_singleton.1 hother ▸ hfolded)

theorem mem_map_lowercase_foldl_keepFirst {folded : String} {texts known : List String} :
    folded ∈ (texts.foldl keepFirst known).map lowercase ↔
      folded ∈ known.map lowercase ∨ folded ∈ texts.map lowercase := by
  induction texts generalizing known with
  | nil => simp
  | cons text rest ih =>
      rw [List.foldl_cons, ih, mem_map_lowercase_keepFirst, List.map_cons, List.mem_cons]
      exact or_assoc.trans or_left_comm

theorem nodup_map_lowercase_foldl_keepFirst (texts : List String) {known : List String}
    (hdistinct : (known.map lowercase).Nodup) :
    ((texts.foldl keepFirst known).map lowercase).Nodup := by
  induction texts generalizing known with
  | nil => exact hdistinct
  | cons text rest ih => exact ih (nodup_map_lowercase_keepFirst text hdistinct)

namespace Entry

/-- The key of an entry without regard to letter case. -/
def foldedKey (entry : Entry) : String :=
  lowercase entry.key

theorem map_foldedKey (entries : List Entry) :
    entries.map foldedKey = (entries.map Entry.key).map lowercase := by
  rw [List.map_map]
  rfl

/-- All values that entries have for a folded key. -/
def valuesAt (folded : String) (entries : List Entry) : List String :=
  (entries.filter fun entry => entry.foldedKey = folded).flatMap Entry.values

theorem hasKey_iff {key : String} {entry : Entry} :
    entry.hasKey key = true ↔ entry.foldedKey = lowercase key := by
  simp [hasKey, foldedKey]

theorem valuesAt_cons (folded : String) (entry : Entry) (rest : List Entry) :
    valuesAt folded (entry :: rest) =
      (if entry.foldedKey = folded then entry.values else []) ++ valuesAt folded rest := by
  by_cases h : entry.foldedKey = folded <;> simp [valuesAt, h]

theorem valuesAt_eq_nil {folded : String} {entries : List Entry}
    (h : folded ∉ entries.map foldedKey) : valuesAt folded entries = [] := by
  have hnone : entries.filter (fun entry => entry.foldedKey = folded) = [] := by
    rw [List.filter_eq_nil_iff]
    intro entry hmem
    simpa using fun hsame => h (List.mem_map.2 ⟨entry, hmem, hsame⟩)
  rw [valuesAt, hnone, List.flatMap_nil]

/-- Where keys are told apart, the values for the key of an entry are its own. -/
theorem valuesAt_foldedKey {entries : List Entry} (hdistinct : (entries.map foldedKey).Nodup)
    {entry : Entry} (hmem : entry ∈ entries) :
    valuesAt entry.foldedKey entries = entry.values := by
  induction entries with
  | nil => cases hmem
  | cons first rest ih =>
      obtain ⟨hfirst, hrest⟩ := List.nodup_cons.1 (List.map_cons ▸ hdistinct)
      rw [valuesAt_cons]
      rcases List.mem_cons.1 hmem with rfl | hmem
      · rw [if_pos rfl, valuesAt_eq_nil hfirst, List.append_nil]
      · have hother : first.foldedKey ≠ entry.foldedKey := fun hsame =>
          hfirst (hsame ▸ List.mem_map.2 ⟨entry, hmem, rfl⟩)
        rw [if_neg hother, List.nil_append, ih hrest hmem]

/-! ## Adding values to a key -/

/-- Keys that come again are found in whatever spelling. -/
theorem map_key_extend (key : String) (values : List String) (known : List Entry) :
    (extend key values known).map Entry.key = keepFirst (known.map Entry.key) key := by
  induction known with
  | nil => rfl
  | cons entry rest ih =>
      rw [extend]
      split
      · rename_i hkey
        have hkey : lowercase entry.key = lowercase key := hasKey_iff.1 hkey
        simp [keepFirst, hkey]
      · rename_i hkey
        have hkey : lowercase entry.key ≠ lowercase key := mt hasKey_iff.2 hkey
        have hstays : keepFirst (entry.key :: rest.map Entry.key) key =
            entry.key :: keepFirst (rest.map Entry.key) key := by
          simp only [keepFirst, List.any_cons, hkey, decide_false, Bool.false_or]
          split <;> rfl
        rw [List.map_cons, ih, List.map_cons, hstays]

/-- Keys that are told apart stay so. -/
theorem nodup_foldedKeys_extend (key : String) (values : List String) {entries : List Entry}
    (hdistinct : (entries.map foldedKey).Nodup) :
    ((extend key values entries).map foldedKey).Nodup := by
  rw [map_foldedKey] at hdistinct ⊢
  rw [map_key_extend]
  exact nodup_map_lowercase_keepFirst key hdistinct

/-- The values of the key get longer, and those of other keys stay. -/
theorem valuesAt_extend (folded key : String) (values : List String) {entries : List Entry}
    (hdistinct : (entries.map foldedKey).Nodup) :
    valuesAt folded (extend key values entries) =
      valuesAt folded entries ++ (if lowercase key = folded then values else []) := by
  induction entries with
  | nil =>
      rw [extend, valuesAt_cons, valuesAt_eq_nil (by simp), List.append_nil, List.nil_append]
      rfl
  | cons entry rest ih =>
      obtain ⟨hfirst, hrest⟩ := List.nodup_cons.1 (List.map_cons ▸ hdistinct)
      unfold extend
      split
      · rename_i hkey
        have hkey : entry.foldedKey = lowercase key := hasKey_iff.1 hkey
        have hsame : ({ entry with values := entry.values ++ values } : Entry).foldedKey =
          entry.foldedKey := rfl
        rw [valuesAt_cons, valuesAt_cons, hsame, hkey]
        by_cases hfolded : lowercase key = folded
        · -- No later entry has the key, so the new values come last.
          have hnone : valuesAt folded rest = [] := by
            rw [hkey, hfolded] at hfirst
            exact valuesAt_eq_nil hfirst
          simp [hfolded, hnone]
        · simp [hfolded]
      · rw [valuesAt_cons, valuesAt_cons, ih hrest, List.append_assoc]

/-- Brings entries together by their folded keys, the keys being put in lower case as far as every
store agrees. -/
def merge (known : List Entry) (entry : Entry) : List Entry :=
  extend (asciiLower entry.key) entry.values known

theorem map_key_foldl_merge (entries known : List Entry) :
    (entries.foldl merge known).map Entry.key =
      (entries.map fun entry => asciiLower entry.key).foldl keepFirst (known.map Entry.key) := by
  rw [List.foldl_map]
  have hstep : ∀ (known : List Entry) (entry : Entry),
      keepFirst (known.map Entry.key) (asciiLower entry.key) = (merge known entry).map Entry.key :=
    fun known entry => (map_key_extend _ _ known).symm
  exact (List.foldl_hom (List.map Entry.key) hstep).symm

theorem mem_foldedKeys_foldl_merge {folded : String} {entries known : List Entry} :
    folded ∈ (entries.foldl merge known).map foldedKey ↔
      folded ∈ known.map foldedKey ∨ folded ∈ entries.map foldedKey := by
  rw [map_foldedKey, map_key_foldl_merge, mem_map_lowercase_foldl_keepFirst, ← map_foldedKey]
  simp [foldedKey]

theorem nodup_foldedKeys_foldl_merge (entries : List Entry) {known : List Entry}
    (hdistinct : (known.map foldedKey).Nodup) :
    ((entries.foldl merge known).map foldedKey).Nodup := by
  rw [map_foldedKey] at hdistinct ⊢
  rw [map_key_foldl_merge]
  exact nodup_map_lowercase_foldl_keepFirst _ hdistinct

theorem valuesAt_foldl_merge (folded : String) (entries : List Entry) {known : List Entry}
    (hdistinct : (known.map foldedKey).Nodup) :
    valuesAt folded (entries.foldl merge known) =
      valuesAt folded known ++ valuesAt folded entries := by
  induction entries generalizing known with
  | nil => simp [valuesAt]
  | cons entry rest ih =>
      have hnext := nodup_foldedKeys_extend (asciiLower entry.key) entry.values hdistinct
      rw [List.foldl_cons, merge, ih hnext, valuesAt_extend _ _ _ hdistinct, lowercase_asciiLower,
        valuesAt_cons, List.append_assoc, foldedKey]

end Entry

namespace Criteria

/-! ## Tags -/

/-- Adds a tag in lower case unless it is there already. -/
def keepTag (known : List String) (tag : String) : List String :=
  if known.any fun other => lowercase other = lowercase (asciiLower tag) then known
  else known ++ [asciiLower tag]

theorem addTag_eq (criteria : Criteria) (tag : String) :
    criteria.addTag tag = { criteria with
      tagPatterns := criteria.tagPatterns ++ [tag].filter Glob.isPattern
      exactTags := ([tag].filter fun tag => !Glob.isPattern tag).foldl keepTag
        criteria.exactTags } := by
  unfold addTag
  by_cases hpattern : Glob.isPattern tag = true
  · simp [hpattern]
  · have hplain : Glob.isPattern tag = false := Bool.eq_false_iff.2 hpattern
    simp only [hplain, keepTag, List.filter_cons, List.filter_nil, Bool.not_false, if_true,
      Bool.false_eq_true, if_false, List.append_nil, List.foldl_cons, List.foldl_nil]
    split <;> rfl

/-- Tag globs are kept in order, and tags without wildcards are kept once. -/
theorem foldl_addTag (tags : List String) (criteria : Criteria) :
    tags.foldl addTag criteria = { criteria with
      tagPatterns := criteria.tagPatterns ++ tags.filter Glob.isPattern
      exactTags := (tags.filter fun tag => !Glob.isPattern tag).foldl keepTag
        criteria.exactTags } := by
  induction tags generalizing criteria with
  | nil => simp
  | cons tag rest ih =>
      rw [List.foldl_cons, ih, addTag_eq]
      by_cases hpattern : Glob.isPattern tag = true
      · simp [hpattern]
      · simp [hpattern]

theorem foldl_keepTag (tags known : List String) :
    tags.foldl keepTag known = (tags.map asciiLower).foldl keepFirst known := by
  rw [List.foldl_map]
  rfl

/-! ## All entries -/

/-- Each entry goes to the bucket of its kind. -/
theorem foldl_addEntry (entries : List Entry) (criteria : Criteria) :
    entries.foldl addEntry criteria =
      { names := criteria.names ++ Request.nameGlobs ⟨entries⟩
        exactTags := ((Request.tags ⟨entries⟩).filter fun tag => !Glob.isPattern tag).foldl keepTag
          criteria.exactTags
        tagPatterns := criteria.tagPatterns ++ (Request.tags ⟨entries⟩).filter Glob.isPattern
        properties := (Request.properties ⟨entries⟩).foldl Entry.merge criteria.properties } := by
  -- The two reserved keys differ, so that each entry is of one kind only.
  have hreserved : nameKey ≠ tagKey := by decide
  induction entries generalizing criteria with
  | nil => simp [Request.nameGlobs, Request.tags, Request.properties]
  | cons entry rest ih =>
      rw [List.foldl_cons, ih]
      by_cases hname : asciiLower entry.key = nameKey
      · have htag : asciiLower entry.key ≠ tagKey := hname ▸ hreserved
        simp [addEntry, hname, hreserved, Request.nameGlobs, Request.tags, Request.properties]
      · by_cases htag : asciiLower entry.key = tagKey
        · simp [addEntry, htag, hreserved.symm, foldl_addTag, Request.nameGlobs, Request.tags,
            Request.properties]
        · simp [addEntry, hname, htag, addProperty, Entry.merge, Request.nameGlobs, Request.tags,
            Request.properties]

section

variable (request : Request)

theorem names_ofRequest : (ofRequest request).names = request.nameGlobs := by
  simp [ofRequest, foldl_addEntry]

theorem tagPatterns_ofRequest :
    (ofRequest request).tagPatterns = request.tags.filter Glob.isPattern := by
  simp [ofRequest, foldl_addEntry]

theorem mem_map_lowercase_exactTags_ofRequest {folded : String} :
    folded ∈ (ofRequest request).exactTags.map lowercase ↔
      ∃ tag ∈ request.tags, Glob.isPattern tag = false ∧ lowercase tag = folded := by
  rw [ofRequest, foldl_addEntry, foldl_keepTag, mem_map_lowercase_foldl_keepFirst]
  simp [and_assoc]

theorem nodup_map_lowercase_exactTags_ofRequest :
    ((ofRequest request).exactTags.map lowercase).Nodup := by
  rw [ofRequest, foldl_addEntry, foldl_keepTag]
  exact nodup_map_lowercase_foldl_keepFirst _ List.nodup_nil

theorem mem_foldedKeys_ofRequest {folded : String} :
    folded ∈ (ofRequest request).properties.map Entry.foldedKey ↔
      folded ∈ request.properties.map Entry.foldedKey := by
  rw [ofRequest, foldl_addEntry, Entry.mem_foldedKeys_foldl_merge]
  simp

theorem nodup_foldedKeys_ofRequest :
    ((ofRequest request).properties.map Entry.foldedKey).Nodup := by
  rw [ofRequest, foldl_addEntry]
  exact Entry.nodup_foldedKeys_foldl_merge _ List.nodup_nil

/-- A property key has the values that the request gives for it under any spelling. -/
theorem values_of_mem_properties_ofRequest {entry : Entry}
    (hmem : entry ∈ (ofRequest request).properties) :
    entry.values = Entry.valuesAt entry.foldedKey request.properties := by
  have hstart : (([] : List Entry).map Entry.foldedKey).Nodup := List.nodup_nil
  have hmerged := Entry.valuesAt_foldl_merge entry.foldedKey request.properties hstart
  rw [← Entry.valuesAt_foldedKey (nodup_foldedKeys_ofRequest request) hmem, ofRequest,
    foldl_addEntry]
  exact hmerged

end

end Criteria
end ChannelCatalog
