import ChannelCatalog.Proofs.Criteria.Grouping

/-!
# The buckets of a request

Sorting goes through a request and puts its values into four buckets one by one.  Tags and property
keys that come again, in whatever spelling, are found among those that are there.  What comes of
this can be said of each bucket at once (`Request.buckets`), with one notion of what is kept of texts
that come again (`firstSpellings`), and each value of the request goes to exactly one bucket.
-/

namespace ChannelCatalog

open Text

/-! ## First spellings -/

/-- Those texts that come for the first time, letter case ignored. -/
def firstSpellings (texts : List String) : List String :=
  texts.eraseDupsBy fun text earlier => lowercase text = lowercase earlier

theorem firstSpellings_cons (text : String) (rest : List String) :
    firstSpellings (text :: rest) =
      text :: firstSpellings (rest.filter fun other => lowercase other ≠ lowercase text) := by
  rw [firstSpellings, List.eraseDupsBy_cons, firstSpellings]
  simp

/-- One text after the other is kept: what remains are first spellings. -/
theorem foldl_keepFirst (texts known : List String) :
    texts.foldl keepFirst known =
      known ++ firstSpellings (texts.filter fun text => lowercase text ∉ known.map lowercase) := by
  induction texts generalizing known with
  | nil => exact (List.append_nil known).symm
  | cons text rest ih =>
      rw [List.foldl_cons, ih, keepFirst_eq, List.filter_cons]
      by_cases hknown : lowercase text ∈ known.map lowercase
      · simp only [hknown, if_true, not_true_eq_false, decide_false, Bool.false_eq_true, if_false]
      · simp only [hknown, if_false, not_false_eq_true, decide_true, if_true]
        rw [firstSpellings_cons, List.filter_filter, List.append_assoc, List.singleton_append]
        simp [and_comm]

theorem foldl_keepFirst_nil (texts : List String) :
    texts.foldl keepFirst [] = firstSpellings texts := by
  simp [foldl_keepFirst]

/-! ## Property keys -/

namespace Entry

/-- Values that are added to a key are there with those of all other keys. -/
theorem values_extend_perm (key : String) (values : List String) (known : List Entry) :
    ((extend key values known).flatMap Entry.values).Perm
      (known.flatMap Entry.values ++ values) := by
  induction known with
  | nil => simp [extend]
  | cons entry rest ih =>
      rw [extend]
      split
      · rw [List.flatMap_cons, List.flatMap_cons, List.append_assoc, List.append_assoc]
        exact List.perm_append_comm.append_left entry.values
      · rw [List.flatMap_cons, List.flatMap_cons, List.append_assoc]
        exact ih.append_left entry.values

/-- Bringing entries together neither loses a value nor makes one. -/
theorem values_foldl_merge_perm (entries known : List Entry) :
    ((entries.foldl merge known).flatMap Entry.values).Perm
      (known.flatMap Entry.values ++ entries.flatMap Entry.values) := by
  induction entries generalizing known with
  | nil => simp
  | cons entry rest ih =>
      rw [List.foldl_cons, List.flatMap_cons, ← List.append_assoc]
      exact (ih _).trans ((values_extend_perm _ _ known).append_right _)

end Entry

namespace Request

/-- Reserved keys apart, all values for a key are values of properties. -/
theorem valuesAt_properties {request : Request} {folded : String} (hname : folded ≠ nameKey)
    (htag : folded ≠ tagKey) :
    Entry.valuesAt folded request.properties = Entry.valuesAt folded request.entries := by
  rw [properties_eq_filter request.entries, Entry.valuesAt, List.filter_filter, Entry.valuesAt]
  refine congrArg (List.flatMap Entry.values) (List.filter_congr fun entry _ => ?_)
  by_cases hkey : entry.foldedKey = folded
  · simp [hkey, hname, htag]
  · simp [hkey]

/-- Each value is a glob for names, a tag, or one of a property. -/
theorem values_perm (request : Request) :
    (request.nameGlobs ++ (request.tags ++ request.properties.flatMap Entry.values)).Perm
      (request.entries.flatMap Entry.values) := by
  have hreserved : nameKey ≠ tagKey := by decide
  have htags : request.entries.filter (fun entry => asciiLower entry.key = tagKey) =
      (request.entries.filter fun entry => !decide (asciiLower entry.key = nameKey)).filter
        fun entry => asciiLower entry.key = tagKey := by
    rw [List.filter_filter]
    refine List.filter_congr fun entry _ => ?_
    by_cases htag : asciiLower entry.key = tagKey
    · simp [htag, hreserved.symm]
    · simp [htag]
  have hproperties : request.properties =
      (request.entries.filter fun entry => !decide (asciiLower entry.key = nameKey)).filter
        fun entry => !decide (asciiLower entry.key = tagKey) := by
    rw [properties, List.filter_filter]
    exact List.filter_congr fun entry _ => by simp [Bool.and_comm]
  rw [nameGlobs, tags, htags, hproperties, ← List.flatMap_append, ← List.flatMap_append]
  exact (((List.filter_append_perm _ _).append_left _).trans
    (List.filter_append_perm _ _)).flatMap_right _

/-- The tags without wildcards. -/
def plainTags (request : Request) : List String :=
  request.tags.filter fun tag => '*' ∉ tag.toList ∧ '?' ∉ tag.toList

/-- The tags with wildcards. -/
def tagGlobs (request : Request) : List String :=
  request.tags.filter fun tag => '*' ∈ tag.toList ∨ '?' ∈ tag.toList

theorem tagGlobs_eq (request : Request) : request.tagGlobs = request.tags.filter Glob.isPattern :=
  List.filter_congr fun tag _ => Bool.eq_iff_iff.2 (by simp [Glob.isPattern_iff])

theorem plainTags_eq (request : Request) :
    request.plainTags = request.tags.filter fun tag => !Glob.isPattern tag :=
  List.filter_congr fun tag _ =>
    Bool.eq_iff_iff.2 (by simp [← Bool.not_eq_true, Glob.isPattern_iff])

theorem mem_plainTags {request : Request} {tag : String} :
    tag ∈ request.plainTags ↔ tag ∈ request.tags ∧ Glob.isPattern tag = false := by
  simp [plainTags_eq]

theorem tags_perm (request : Request) :
    (request.tagGlobs ++ request.plainTags).Perm request.tags := by
  rw [tagGlobs_eq, plainTags_eq]
  exact List.filter_append_perm _ _

/-- The request in buckets. -/
def buckets (request : Request) : Criteria where
  names := request.nameGlobs
  exactTags := firstSpellings (request.plainTags.map asciiLower)
  tagPatterns := request.tagGlobs
  properties :=
    (firstSpellings (request.properties.map fun entry => asciiLower entry.key)).map fun key =>
      ⟨key, Entry.valuesAt (lowercase key) request.entries⟩

end Request

namespace Criteria

variable (request : Request)

theorem exactTags_ofRequest :
    (ofRequest request).exactTags = firstSpellings (request.plainTags.map asciiLower) := by
  rw [← foldl_keepFirst_nil, ofRequest, foldl_addEntry, foldl_keepTag, Request.plainTags_eq]

theorem keys_ofRequest :
    (ofRequest request).properties.map Entry.key =
      firstSpellings (request.properties.map fun entry => asciiLower entry.key) := by
  rw [← foldl_keepFirst_nil, ofRequest, foldl_addEntry]
  exact Entry.map_key_foldl_merge request.properties []

/-- A property has all values that the request gives for its key in whatever spelling. -/
theorem values_eq_valuesAt_entries {entry : Entry}
    (hmem : entry ∈ (ofRequest request).properties) :
    entry.values = Entry.valuesAt entry.foldedKey request.entries := by
  have hkey : entry.foldedKey ∈ request.properties.map Entry.foldedKey :=
    (mem_foldedKeys_ofRequest request).1 (List.mem_map.2 ⟨entry, hmem, rfl⟩)
  rw [Request.properties_eq_filter request.entries] at hkey
  obtain ⟨source, hsource, hsame⟩ := List.mem_map.1 hkey
  have hkind := (List.mem_filter.1 hsource).2
  rw [decide_eq_true_eq, hsame] at hkind
  rw [values_of_mem_properties_ofRequest request hmem,
    Request.valuesAt_properties hkind.1 hkind.2]

/-- Sorting one value after the other comes to the buckets. -/
theorem ofRequest_eq_buckets : ofRequest request = request.buckets := by
  have hproperties : (ofRequest request).properties = request.buckets.properties := by
    rw [Request.buckets, ← keys_ofRequest, List.map_map]
    refine (List.map_id _).symm.trans (List.map_congr_left fun entry hmem => ?_)
    exact congrArg (Entry.mk entry.key) (values_eq_valuesAt_entries request hmem)
  have htags : (ofRequest request).tagPatterns = request.tagGlobs :=
    (tagPatterns_ofRequest request).trans request.tagGlobs_eq.symm
  calc ofRequest request
      = ⟨(ofRequest request).names, (ofRequest request).exactTags, (ofRequest request).tagPatterns,
          (ofRequest request).properties⟩ := rfl
    _ = request.buckets := by
        rw [names_ofRequest, exactTags_ofRequest, htags, hproperties]
        rfl

/-- A tag without wildcards is kept in one spelling. -/
theorem existsUnique_exactTag {tag : String} (hmem : tag ∈ request.plainTags) :
    ∃! kept, kept ∈ (ofRequest request).exactTags ∧ lowercase kept = lowercase tag := by
  have hplain := Request.mem_plainTags.1 hmem
  have hfolded : lowercase tag ∈ (ofRequest request).exactTags.map lowercase :=
    (mem_map_lowercase_exactTags_ofRequest request).2 ⟨tag, hplain.1, hplain.2, rfl⟩
  obtain ⟨kept, hkept, hsame⟩ := List.mem_map.1 hfolded
  refine ⟨kept, ⟨hkept, hsame⟩, fun other hother => ?_⟩
  exact List.inj_on_of_nodup_map (nodup_map_lowercase_exactTags_ofRequest request) hother.1 hkept
    (hother.2.trans hsame.symm)

/-- Every value of the request is in one bucket as often as it is given. -/
theorem values_ofRequest_perm :
    ((ofRequest request).names ++ (((ofRequest request).tagPatterns ++ request.plainTags) ++
        (ofRequest request).properties.flatMap Entry.values)).Perm
      (request.entries.flatMap Entry.values) := by
  have hproperties : ((ofRequest request).properties.flatMap Entry.values).Perm
      (request.properties.flatMap Entry.values) := by
    rw [ofRequest, foldl_addEntry]
    exact Entry.values_foldl_merge_perm request.properties []
  rw [names_ofRequest, tagPatterns_ofRequest, ← Request.tagGlobs_eq]
  exact ((request.tags_perm.append hproperties).append_left _).trans request.values_perm

theorem ofTags_eq_ofRequest (tags : List String) : ofTags tags = ofRequest ⟨[⟨tagKey, tags⟩]⟩ := by
  have hlower : asciiLower tagKey = tagKey := by decide
  have hreserved : tagKey ≠ nameKey := by decide
  simp [ofRequest, addEntry, hlower, hreserved, ofTags]

/-- **Sorting partitions a request.**  What sorting comes to is said bucket by bucket; no two tags
and no two keys are the same up to letter case; every value of the request is in one bucket, as
often as it is given, where for each tag without wildcards there is just one spelling of it.
Criteria of tags alone are those of a request for tags alone. -/
theorem sorting_partitions :
    (∀ request : Request,
      ofRequest request = request.buckets ∧
      ((ofRequest request).exactTags.map lowercase).Nodup ∧
      ((ofRequest request).properties.map fun entry => lowercase entry.key).Nodup ∧
      ((ofRequest request).names ++ (((ofRequest request).tagPatterns ++ request.plainTags) ++
          (ofRequest request).properties.flatMap Entry.values)).Perm
        (request.entries.flatMap Entry.values) ∧
      ∀ tag ∈ request.plainTags,
        ∃! kept, kept ∈ (ofRequest request).exactTags ∧ lowercase kept = lowercase tag) ∧
    ∀ tags : List String, ofTags tags = ofRequest ⟨[⟨tagKey, tags⟩]⟩ :=
  ⟨fun request => ⟨ofRequest_eq_buckets request, nodup_map_lowercase_exactTags_ofRequest request,
    nodup_foldedKeys_ofRequest request, values_ofRequest_perm request,
    fun _ => existsUnique_exactTag request⟩, ofTags_eq_ofRequest⟩

end Criteria
end ChannelCatalog
