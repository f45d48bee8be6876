import ChannelCatalog.Proofs.Json.Record
import ChannelCatalog.Proofs.Request.Multimap
import Mathlib.Data.List.Dedup

/-!
# Requests with one entry for each key

Calls never make a second entry for a key, and they never remove one.  So a request that is built by
calls has one entry for each key, in whatever spelling (`Request.DistinctKeys`).  A document may have
several entries for one key, and they are taken as they stand.
-/

namespace ChannelCatalog

open Json
open Text (lowercase)

namespace Request

/-- No two entries have one key in different spellings. -/
def DistinctKeys (request : Request) : Prop :=
  (request.entries.map Entry.foldedKey).Nodup

instance : DecidablePred DistinctKeys :=
  fun request => inferInstanceAs (Decidable (request.entries.map Entry.foldedKey).Nodup)

/-- The number of keys, each counted once in whatever spellings it is given. -/
def keyCount (request : Request) : Nat :=
  (request.entries.map Entry.foldedKey).dedup.length

theorem distinctKeys_empty : DistinctKeys empty := List.nodup_nil

theorem DistinctKeys.after {request : Request} (h : request.DistinctKeys) (calls : List Call) :
    (request.after calls).DistinctKeys :=
  nodup_foldedKeys_after h calls

/-- Calls neither make second entries for a key nor remove them. -/
theorem distinctKeys_after_iff {request : Request} {calls : List Call} :
    (request.after calls).DistinctKeys ↔ request.DistinctKeys := by
  refine ⟨fun h => ?_, fun h => h.after calls⟩
  -- The keys from the start are still there, in front of the new ones.
  rw [DistinctKeys, Entry.map_foldedKey, entries_after, Entry.foldl_gather_eq_filled,
    Entry.map_key_filled, List.map_append, ← Entry.map_foldedKey] at h
  exact (List.nodup_append.1 h).1

theorem distinctKeys_ofPairs (pairs : List (String × String)) : (ofPairs pairs).DistinctKeys := by
  rw [ofPairs_eq_after]
  exact distinctKeys_empty.after _

theorem distinctKeys_iff_length {request : Request} :
    request.DistinctKeys ↔ request.entries.length = request.keyCount := by
  rw [DistinctKeys, ← List.dedup_eq_self, keyCount, ← List.length_map Entry.foldedKey]
  refine ⟨fun h => by rw [h], fun h => ?_⟩
  exact (List.dedup_sublist _).eq_of_length h.symm

/-- What is found for a key is all that there is for it. -/
theorem DistinctKeys.get?_eq {request : Request} (h : request.DistinctKeys) (key : String) :
    request.get? key =
      if lowercase key ∈ request.entries.map Entry.foldedKey then
        some (Entry.valuesAt (lowercase key) request.entries)
      else none := by
  rw [get?]
  cases hfound : request.entries.find? (Entry.hasKey key) with
  | none =>
      have hnone : lowercase key ∉ request.entries.map Entry.foldedKey := by
        rw [← Entry.valuesFor?_eq_none_iff, ← Entry.find?_hasKey, hfound]
        rfl
      exact (if_neg hnone).symm
  | some entry =>
      have hmem : entry ∈ request.entries := List.mem_of_find?_eq_some hfound
      have hkey : entry.foldedKey = lowercase key := Entry.hasKey_iff.1 (List.find?_some hfound)
      rw [← hkey, if_pos (List.mem_map.2 ⟨entry, hmem, rfl⟩), Entry.valuesAt_foldedKey h hmem]
      rfl

/-- **Requests that are built by calls or from pairs have one entry for each key.**  A request that is
read from a document has what the document has, and whatever is called later, it has one entry for
each key just if the document had.  The number of entries is that of the keys just if there is one
entry for each; then all values for a key are found. -/
theorem distinctKeys_of_made (start : Request) (calls : List Call) :
    ((start = empty ∨ ∃ pairs, start = ofPairs pairs) → (start.after calls).DistinctKeys) ∧
    (∀ text, SpelledBy start.Spelled text → read ofJson text = .ok start) ∧
    ((start.after calls).DistinctKeys ↔ start.DistinctKeys) ∧
    ((start.after calls).DistinctKeys ↔
      (start.after calls).entries.length = (start.after calls).keyCount) ∧
    ((start.after calls).DistinctKeys → ∀ key, (start.after calls).get? key =
      if lowercase key ∈ (start.after calls).entries.map Entry.foldedKey then
        some (Entry.valuesAt (lowercase key) (start.after calls).entries)
      else none) := by
  refine ⟨fun hmade => ?_, fun _ htext => start.decodes_ofJson.read_eq_ok htext,
    distinctKeys_after_iff, distinctKeys_iff_length, DistinctKeys.get?_eq⟩
  rcases hmade with rfl | ⟨pairs, rfl⟩
  · exact distinctKeys_empty.after calls
  · exact (distinctKeys_ofPairs pairs).after calls

/-- A document with two keys that are not in ASCII, and a call for one of them in capitals; pairs with
one key in two spellings. -/
theorem distinctKeys_of_made_umlauts :
    let start : Request := ⟨[⟨"Länge", ["2"]⟩, ⟨"größe", []⟩]⟩
    let request := start.after [.add "LÄNGE" "3"]
    (SpelledBy start.Spelled start.toJson.toText ∧ request.DistinctKeys) ∧
      read ofJson start.toJson.toText = .ok start ∧ request.entries.length = request.keyCount ∧
      request.get? "länge" = some ["2", "3"] ∧
      ((ofPairs [("Länge", "2"), ("LÄNGE", "3")]).after [.extend "größe" []]).DistinctKeys := by
  intro start request
  obtain ⟨-, hread, hafter, hlength, hfound⟩ := distinctKeys_of_made start [.add "LÄNGE" "3"]
  have hpairs := (distinctKeys_of_made (ofPairs [("Länge", "2"), ("LÄNGE", "3")])
    [.extend "größe" []]).1 (Or.inr ⟨_, rfl⟩)
  have htext : SpelledBy start.Spelled start.toJson.toText :=
    spelledBy_toText start.spelled_toJson start.isGrammatical_toJson
  have hdistinct : request.DistinctKeys := hafter.2 (by decide)
  exact ⟨⟨htext, hdistinct⟩, hread _ htext, hlength.1 hdistinct,
    (hfound hdistinct "länge").trans (by decide), hpairs⟩

/-- Two entries for one key in a document are two entries of the request.  It has one key, and not all
values for it are found. -/
theorem distinctKeys_fails_for_document :
    let text := "\x7b\"entries\":[[\"a\",[\"1\"]],[\"A\",[\"2\"]]]\x7d"
    let request : Request := ⟨[⟨"a", ["1"]⟩, ⟨"A", ["2"]⟩]⟩
    read ofJson text = .ok request ∧ ¬ request.DistinctKeys ∧ request.entries.length = 2 ∧
      request.keyCount = 1 ∧ request.get? "a" = some ["1"] ∧
      Entry.valuesAt "a" request.entries = ["1", "2"] := by
  intro text request
  have htext : request.toJson.toText = text := by decide
  have hread : read ofJson text = .ok request :=
    htext ▸ request.decodes_ofJson.read_toText request.spelled_toJson request.isGrammatical_toJson
  exact ⟨hread, by decide, rfl, by decide, by decide, by decide⟩

end Request
end ChannelCatalog
