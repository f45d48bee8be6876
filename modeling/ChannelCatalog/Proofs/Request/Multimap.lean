import ChannelCatalog.Proofs.Criteria.Partition

/-!
# A request as a multimap

A request is filled by calls that give values to keys.  What is given goes to the end of the first
entry for its key, in whatever spelling; where there is none it becomes a new last entry
(`Entry.Gathered`).  So after any calls the first entry for a key has all that was given for the key
after its own values, the new keys stand behind all others, and nothing else has changed
(`Entry.foldl_gather_eq_filled`).

Nothing of this depends on the keys being told apart: a request may have several entries for one key
to begin with, and then only the first of them grows.
-/

namespace ChannelCatalog

open Text (lowercase)

namespace Entry

/-! ## One step -/

/-- What one given entry makes of the entries before. -/
inductive Gathered (given : Entry) : List Entry → List Entry → Prop
  /-- Its values go to the end of the first entry for its key. -/
  | more {before after : List Entry} {entry : Entry}
      (hbefore : ∀ other ∈ before, lowercase other.key ≠ lowercase given.key)
      (hkey : lowercase entry.key = lowercase given.key) :
      Gathered given (before ++ entry :: after)
        (before ++ ⟨entry.key, entry.values ++ given.values⟩ :: after)
  /-- It becomes the last entry if there is none for its key. -/
  | new {known : List Entry} (hnew : ∀ other ∈ known, lowercase other.key ≠ lowercase given.key) :
      Gathered given known (known ++ [given])

/-- An entry for another key stays in front. -/
theorem Gathered.cons {given entry : Entry} {known next : List Entry}
    (hentry : lowercase entry.key ≠ lowercase given.key) (h : Gathered given known next) :
    Gathered given (entry :: known) (entry :: next) := by
  cases h with
  | @more before after _ hbefore hkey =>
      exact @more given (entry :: before) after _ (List.forall_mem_cons.2 ⟨hentry, hbefore⟩) hkey
  | new hnew => exact .new (List.forall_mem_cons.2 ⟨hentry, hnew⟩)

theorem gathered_gather (known : List Entry) (given : Entry) :
    Gathered given known (gather known given) := by
  induction known with
  | nil => exact .new (List.forall_mem_nil _)
  | cons entry rest ih =>
      rw [gather, extend]
      split
      · rename_i hkey
        exact @Gathered.more given [] rest entry (List.forall_mem_nil _) (hasKey_iff.1 hkey)
      · rename_i hkey
        exact ih.cons (mt hasKey_iff.2 hkey)

/-! ## What is found for a key -/

/-- The values of the first entry for a folded key. -/
def valuesFor? (folded : String) : List Entry → Option (List String)
  | [] => none
  | entry :: rest => if entry.foldedKey = folded then some entry.values else valuesFor? folded rest

theorem find?_hasKey (key : String) (entries : List Entry) :
    (entries.find? (hasKey key)).map Entry.values = valuesFor? (lowercase key) entries := by
  induction entries with
  | nil => rfl
  | cons entry rest ih =>
      rw [List.find?_cons, valuesFor?, ← ih]
      by_cases hkey : entry.foldedKey = lowercase key
      · simp [hasKey_iff.2 hkey, hkey]
      · simp [Bool.eq_false_iff.2 (mt hasKey_iff.1 hkey), hkey]

theorem valuesFor?_eq_none_iff {folded : String} {entries : List Entry} :
    valuesFor? folded entries = none ↔ folded ∉ entries.map foldedKey := by
  induction entries with
  | nil => simp [valuesFor?]
  | cons entry rest ih =>
      rw [valuesFor?, List.map_cons, List.mem_cons, not_or, ← ih]
      split
      · rename_i hkey
        simp [hkey]
      · rename_i hkey
        simp [Ne.symm hkey]

/-- The first entry for the key gives more, and those for other keys give the same. -/
theorem valuesFor?_gather (folded : String) (known : List Entry) (given : Entry) :
    valuesFor? folded (gather known given) =
      if given.foldedKey = folded then
        some ((valuesFor? folded known).getD [] ++ given.values)
      else valuesFor? folded known := by
  induction known with
  | nil => rfl
  | cons entry rest ih =>
      rw [gather, extend]
      split
      · rename_i hkey
        have hkey : entry.foldedKey = given.foldedKey := hasKey_iff.1 hkey
        have hgrown : (⟨entry.key, entry.values ++ given.values⟩ : Entry).foldedKey =
          given.foldedKey := hkey
        by_cases hfolded : given.foldedKey = folded
        · simp [valuesFor?, hgrown, hkey, hfolded]
        · simp [valuesFor?, hgrown, hkey, hfolded]
      · rename_i hkey
        have hkey : entry.foldedKey ≠ given.foldedKey := mt hasKey_iff.2 hkey
        rw [gather] at ih
        rw [valuesFor?, valuesFor?, ih]
        by_cases hentry : entry.foldedKey = folded
        · rw [if_pos hentry, if_pos hentry, if_neg (hentry ▸ Ne.symm hkey)]
        · rw [if_neg hentry, if_neg hentry]

theorem valuesFor?_foldl_gather_eq_none_iff {folded : String} {given known : List Entry} :
    valuesFor? folded (given.foldl gather known) = none ↔
      folded ∉ known.map foldedKey ∧ folded ∉ given.map foldedKey := by
  induction given generalizing known with
  | nil => simp [valuesFor?_eq_none_iff]
  | cons first more ih =>
      rw [List.foldl_cons, ih, ← valuesFor?_eq_none_iff, valuesFor?_gather,
        ← @valuesFor?_eq_none_iff _ known, List.map_cons, List.mem_cons, not_or]
      by_cases hfirst : first.foldedKey = folded
      · simp [hfirst]
      · simp [hfirst, Ne.symm hfirst]

theorem getD_valuesFor?_foldl_gather (folded : String) (given known : List Entry) :
    (valuesFor? folded (given.foldl gather known)).getD [] =
      (valuesFor? folded known).getD [] ++ valuesAt folded given := by
  induction given generalizing known with
  | nil => exact (List.append_nil _).symm
  | cons first more ih =>
      rw [List.foldl_cons, ih, valuesFor?_gather, valuesAt_cons, ← List.append_assoc]
      by_cases hfirst : first.foldedKey = folded
      · simp [hfirst]
      · simp [hfirst]

/-! ## Many steps -/

/-- Gives values to entries, except for keys that have got theirs: the first entry for a key takes all
that is given for it. -/
def receive (given : List Entry) (served : List String) : List Entry → List Entry
  | [] => []
  | entry :: rest =>
    (if entry.foldedKey ∈ served then entry
      else ⟨entry.key, entry.values ++ valuesAt entry.foldedKey given⟩) ::
      receive given (entry.foldedKey :: served) rest

theorem map_key_receive (given : List Entry) (served : List String) (known : List Entry) :
    (receive given served known).map Entry.key = known.map Entry.key := by
  induction known generalizing served with
  | nil => rfl
  | cons entry rest ih =>
      rw [receive, List.map_cons, List.map_cons, ih]
      split <;> rfl

/-- An entry takes what is given for its key unless the key has got its values before it. -/
theorem getElem?_receive (given : List Entry) {served : List String} {known : List Entry} {i : Nat}
    {entry : Entry} (hentry : known[i]? = some entry) :
    (receive given served known)[i]? = some
      (if entry.foldedKey ∈ (known.take i).map foldedKey ∨ entry.foldedKey ∈ served then entry
        else ⟨entry.key, entry.values ++ valuesAt entry.foldedKey given⟩) := by
  induction known generalizing served i with
  | nil => cases hentry
  | cons first rest ih =>
      cases i with
      | zero =>
          obtain rfl : first = entry := Option.some.inj hentry
          simp [receive]
      | succ i =>
          have hrest : rest[i]? = some entry := hentry
          rw [receive, List.getElem?_cons_succ, ih hrest]
          simp only [List.take_succ_cons, List.map_cons, List.mem_cons]
          refine congrArg some (if_congr ?_ rfl rfl)
          rw [or_left_comm, or_assoc]

/-- Only what is given for the keys at hand matters. -/
theorem receive_congr {given other : List Entry} {served : List String} {known : List Entry}
    (h : ∀ folded ∈ known.map foldedKey, folded ∉ served →
      valuesAt folded given = valuesAt folded other) :
    receive given served known = receive other served known := by
  induction known generalizing served with
  | nil => rfl
  | cons entry rest ih =>
      rw [List.map_cons, List.forall_mem_cons] at h
      obtain ⟨hentry, hrest⟩ := h
      rw [receive, receive, ih fun folded hmem hserved =>
        hrest folded hmem (mt (List.mem_cons_of_mem _) hserved)]
      by_cases hserved : entry.foldedKey ∈ served
      · rw [if_pos hserved, if_pos hserved]
      · rw [if_neg hserved, if_neg hserved, hentry hserved]

theorem receive_nil (served : List String) (known : List Entry) : receive [] served known = known := by
  induction known generalizing served with
  | nil => rfl
  | cons entry rest ih =>
      rw [receive, ih, show valuesAt entry.foldedKey [] = [] from rfl, List.append_nil, ite_self]

/-- What is given in two turns is given at once. -/
theorem receive_receive (given more : List Entry) (served : List String) (known : List Entry) :
    receive more served (receive given served known) = receive (given ++ more) served known := by
  induction known generalizing served with
  | nil => rfl
  | cons entry rest ih =>
      have hgrown : ∀ values, (Entry.mk entry.key values).foldedKey = entry.foldedKey := fun _ => rfl
      have happend : valuesAt entry.foldedKey (given ++ more) =
          valuesAt entry.foldedKey given ++ valuesAt entry.foldedKey more := by
        rw [valuesAt, List.filter_append, List.flatMap_append]
        rfl
      rw [receive, receive, receive]
      by_cases hserved : entry.foldedKey ∈ served
      · rw [if_pos hserved, if_pos hserved, if_pos hserved, ih]
      · rw [if_neg hserved, if_neg hserved, hgrown, if_neg hserved, ih, happend, List.append_assoc]

theorem receive_concat {given : List Entry} {served : List String} {known : List Entry}
    {last : Entry} (hserved : last.foldedKey ∉ served) (hknown : last.foldedKey ∉ known.map foldedKey) :
    receive given served (known ++ [last]) =
      receive given served known ++ [⟨last.key, last.values ++ valuesAt last.foldedKey given⟩] := by
  induction known generalizing served with
  | nil => exact congrArg (· :: []) (if_neg hserved)
  | cons entry rest ih =>
      obtain ⟨hother, hrest⟩ := not_or.1 (mt List.mem_cons.2 hknown)
      have hserved : last.foldedKey ∉ entry.foldedKey :: served :=
        mt List.mem_cons.1 (not_or.2 ⟨hother, hserved⟩)
      rw [List.cons_append, receive, ih hserved hrest, receive, List.cons_append]

/-- A step on a key that is there. -/
theorem gather_eq_receive {given : Entry} {served : List String} {known : List Entry}
    (hserved : given.foldedKey ∉ served) (hknown : given.foldedKey ∈ known.map foldedKey) :
    gather known given = receive [given] served known := by
  induction known generalizing served with
  | nil => cases hknown
  | cons entry rest ih =>
      have hvalues : ∀ folded, valuesAt folded [given] =
          if given.foldedKey = folded then given.values else [] := fun folded => by
        rw [valuesAt_cons]
        exact List.append_nil _
      rw [gather, extend, receive, hvalues]
      by_cases hkey : entry.foldedKey = given.foldedKey
      · -- The later entries for the key get nothing.
        have hrest : receive [given] (entry.foldedKey :: served) rest = rest := by
          refine (receive_congr fun folded _ hfolded => ?_).trans (receive_nil _ rest)
          have hother : given.foldedKey ≠ folded := fun hsame =>
            hfolded (List.mem_cons.2 (Or.inl (hkey.trans hsame).symm))
          rw [hvalues, if_neg hother]
          rfl
        rw [if_pos (hasKey_iff.2 hkey), if_neg (hkey ▸ hserved), if_pos hkey.symm, hrest]
      · have hmem : given.foldedKey ∈ rest.map foldedKey :=
          (List.mem_cons.1 hknown).resolve_left (Ne.symm hkey)
        have hother : given.foldedKey ∉ entry.foldedKey :: served :=
          mt List.mem_cons.1 (not_or.2 ⟨Ne.symm hkey, hserved⟩)
        have hrest : extend given.key given.values rest =
          receive [given] (entry.foldedKey :: served) rest := ih hother hmem
        rw [if_neg (mt hasKey_iff.1 hkey), if_neg (Ne.symm hkey), List.append_nil, ite_self, hrest]

/-- The keys that are not among those of the entries before, in their first spellings. -/
def newKeys (known given : List Entry) : List String :=
  firstSpellings ((given.map Entry.key).filter fun key => lowercase key ∉ known.map foldedKey)

theorem newKeys_of_mem {known : List Entry} {first : Entry}
    (hknown : first.foldedKey ∈ known.map foldedKey) (more : List Entry) :
    newKeys known (first :: more) = newKeys known more := by
  have hfirst : ¬ lowercase first.key ∉ known.map foldedKey := not_not_intro hknown
  rw [newKeys, List.map_cons, List.filter_cons_of_neg (by simpa using hfirst), newKeys]

theorem newKeys_of_notMem {known : List Entry} {first : Entry}
    (hknown : first.foldedKey ∉ known.map foldedKey) (more : List Entry) :
    newKeys known (first :: more) = first.key :: newKeys (known ++ [first]) more := by
  have hfirst : lowercase first.key ∉ known.map foldedKey := hknown
  have hsplit : ∀ key, lowercase key ∉ (known ++ [first]).map foldedKey ↔
      lowercase key ≠ lowercase first.key ∧ lowercase key ∉ known.map foldedKey := fun key => by
    rw [List.map_append, List.mem_append, not_or, and_comm]
    exact and_congr_left' (not_congr List.mem_singleton)
  rw [newKeys, List.map_cons, List.filter_cons_of_pos (by simpa using hfirst), firstSpellings_cons,
    List.filter_filter, newKeys]
  simp only [hsplit, Bool.decide_and]

theorem lowercase_notMem_of_mem_newKeys {known given : List Entry} {key : String}
    (hkey : key ∈ newKeys known given) : lowercase key ∉ known.map foldedKey := by
  have hmem : lowercase key ∈ (newKeys known given).map lowercase := List.mem_map_of_mem hkey
  rw [newKeys, ← foldl_keepFirst_nil, mem_map_lowercase_foldl_keepFirst] at hmem
  obtain ⟨other, hother, hsame⟩ := List.mem_map.1 (hmem.resolve_left List.not_mem_nil)
  rw [← hsame]
  simpa using (List.mem_filter.1 hother).2

/-- What given entries make of the entries before: the first entry for each key takes what is given
for the key, and new keys come last with all that is given for them. -/
def filled (known given : List Entry) : List Entry :=
  receive given [] known ++
    (newKeys known given).map fun key => ⟨key, valuesAt (lowercase key) given⟩

theorem filled_gather (known more : List Entry) (first : Entry) :
    filled (gather known first) more = filled known (first :: more) := by
  have hvalues : ∀ folded, valuesAt folded (first :: more) =
      (if first.foldedKey = folded then first.values else []) ++ valuesAt folded more :=
    fun folded => valuesAt_cons folded first more
  by_cases hknown : first.foldedKey ∈ known.map foldedKey
  · -- The key is there: what comes later for it goes behind the first values.
    have hstep := gather_eq_receive List.not_mem_nil hknown
    have hkeys : (receive [first] [] known).map foldedKey = known.map foldedKey := by
      rw [map_foldedKey, map_key_receive, ← map_foldedKey]
    have hnew : newKeys (receive [first] [] known) more = newKeys known more := by
      rw [newKeys, hkeys, newKeys]
    rw [hstep, filled, receive_receive, hnew, filled, newKeys_of_mem hknown, List.singleton_append]
    refine congrArg (_ ++ ·) (List.map_congr_left fun key hkey => ?_)
    have hother : first.foldedKey ≠ lowercase key := fun hsame =>
      lowercase_notMem_of_mem_newKeys hkey (hsame ▸ hknown)
    rw [hvalues, if_neg hother, List.nil_append]
  · -- The new last entry takes what comes later for its key; the entries before do not see it.
    have hstep : gather known first = known ++ [first] := extend_of_notMem first.values hknown
    have hold : receive more [] known = receive (first :: more) [] known :=
      receive_congr fun folded hmem _ => by
        have hother : first.foldedKey ≠ folded := fun hsame => hknown (hsame ▸ hmem)
        rw [hvalues, if_neg hother, List.nil_append]
    have hfirst : valuesAt (lowercase first.key) (first :: more) =
        first.values ++ valuesAt first.foldedKey more :=
      (hvalues _).trans (congrArg (· ++ _) (if_pos rfl))
    rw [hstep, filled, receive_concat List.not_mem_nil hknown, hold, filled,
      newKeys_of_notMem hknown, List.map_cons, hfirst, List.append_assoc, List.singleton_append]
    refine congrArg (fun new => _ ++ (_ :: new)) (List.map_congr_left fun key hkey => ?_)
    have hother : first.foldedKey ≠ lowercase key := fun hsame =>
      lowercase_notMem_of_mem_newKeys hkey (hsame ▸ by simp)
    rw [hvalues, if_neg hother, List.nil_append]

/-- **Step after step comes to what is given in all.** -/
theorem foldl_gather_eq_filled (given known : List Entry) :
    given.foldl gather known = filled known given := by
  induction given generalizing known with
  | nil => rw [filled, receive_nil]; exact (List.append_nil known).symm
  | cons first more ih => rw [List.foldl_cons, ih, filled_gather]

theorem map_key_filled (known given : List Entry) :
    (filled known given).map Entry.key = known.map Entry.key ++ newKeys known given := by
  rw [filled, List.map_append, map_key_receive, List.map_map]
  exact congrArg (_ ++ ·) (List.map_id _)

theorem length_receive (given : List Entry) (served : List String) (known : List Entry) :
    (receive given served known).length = known.length := by
  rw [← List.length_map Entry.key, map_key_receive, List.length_map]

theorem getElem?_filled (given : List Entry) {known : List Entry} {i : Nat} {entry : Entry}
    (hentry : known[i]? = some entry) :
    (filled known given)[i]? = some
      (if entry.foldedKey ∈ (known.take i).map foldedKey then entry
        else ⟨entry.key, entry.values ++ valuesAt entry.foldedKey given⟩) := by
  have hi : i < (receive given [] known).length := by
    rw [length_receive]
    exact (List.getElem?_eq_some_iff.1 hentry).1
  rw [filled, List.getElem?_append_left hi, getElem?_receive given hentry]
  simp only [List.not_mem_nil, or_false]

theorem drop_filled (known given : List Entry) :
    (filled known given).drop known.length =
      (newKeys known given).map fun key => ⟨key, valuesAt (lowercase key) given⟩ := by
  rw [filled, List.drop_left' (length_receive given [] known)]

end Entry

namespace Request

/-! ## Calls -/

/-- A call that gives values to a key. -/
inductive Call
  | add (key value : String)
  | extend (key : String) (values : List String)
deriving DecidableEq, Repr

namespace Call

/-- What a call gives. -/
def entry : Call → Entry
  | .add key value => ⟨key, [value]⟩
  | .extend key values => ⟨key, values⟩

end Call

/-- What a call makes of a request. -/
def apply (request : Request) : Call → Request
  | .add key value => request.add key value
  | .extend key values => request.extend key values

/-- What calls make of a request, one after the other. -/
def after (request : Request) (calls : List Call) : Request :=
  calls.foldl apply request

theorem entries_apply (request : Request) (call : Call) :
    (request.apply call).entries = Entry.gather request.entries call.entry := by
  cases call with
  | add key value => rfl
  | extend key values => rfl

theorem entries_after (request : Request) (calls : List Call) :
    (request.after calls).entries = (calls.map Call.entry).foldl Entry.gather request.entries := by
  rw [List.foldl_map, after]
  exact (List.foldl_hom entries fun request call => (entries_apply request call).symm).symm

theorem get?_eq_valuesFor? (request : Request) (key : String) :
    request.get? key = Entry.valuesFor? (lowercase key) request.entries :=
  Entry.find?_hasKey key request.entries

theorem ofPairs_eq_after (pairs : List (String × String)) :
    ofPairs pairs = empty.after (pairs.map fun pair => .add pair.1 pair.2) := by
  rw [after, List.foldl_map]
  rfl

theorem nodup_foldedKeys_after {request : Request}
    (hdistinct : (request.entries.map Entry.foldedKey).Nodup) (calls : List Call) :
    ((request.after calls).entries.map Entry.foldedKey).Nodup := by
  rw [entries_after]
  induction calls generalizing request with
  | nil => exact hdistinct
  | cons call rest ih =>
      rw [List.map_cons, List.foldl_cons, ← entries_apply]
      refine ih ?_
      rw [entries_apply]
      exact Entry.nodup_foldedKeys_extend _ _ hdistinct

/-- **A request is an ordered multimap.**  One call grows the first entry for its key, or makes a new
last entry.  After any calls the entries from the start are where they were, with their keys; the first
one for each key has got the values that the calls give for it, and the others are as they were.  The
entries behind them are for the new keys, in their first spellings.  So what is found for a key are
the values from the start and then those that the calls give for it in any spelling.  A request built
by calls alone has no two entries for one key. -/
theorem calls_fill_entries :
    (∀ (start : Request) (call : Call),
      Entry.Gathered call.entry start.entries (start.apply call).entries) ∧
    (∀ (start : Request) (calls : List Call),
      (∀ i entry, start.entries[i]? = some entry →
        (start.after calls).entries[i]? = some
          (if entry.foldedKey ∈ (start.entries.take i).map Entry.foldedKey then entry
            else ⟨entry.key,
              entry.values ++ Entry.valuesAt entry.foldedKey (calls.map Call.entry)⟩)) ∧
      (start.after calls).entries.drop start.entries.length =
        (Entry.newKeys start.entries (calls.map Call.entry)).map (fun key =>
          ⟨key, Entry.valuesAt (lowercase key) (calls.map Call.entry)⟩) ∧
      ∀ key,
        ((start.after calls).get? key = none ↔
          lowercase key ∉ start.entries.map Entry.foldedKey ∧
            lowercase key ∉ (calls.map Call.entry).map Entry.foldedKey) ∧
        ((start.after calls).get? key).getD [] =
          (start.get? key).getD [] ++ Entry.valuesAt (lowercase key) (calls.map Call.entry)) ∧
    ∀ calls : List Call, ((empty.after calls).entries.map Entry.foldedKey).Nodup := by
  refine ⟨fun start call => ?_, fun start calls => ⟨fun i entry hentry => ?_, ?_, fun key => ⟨?_, ?_⟩⟩,
    nodup_foldedKeys_after List.nodup_nil⟩
  · rw [entries_apply]
    exact Entry.gathered_gather start.entries call.entry
  · rw [entries_after, Entry.foldl_gather_eq_filled, Entry.getElem?_filled _ hentry]
  · rw [entries_after, Entry.foldl_gather_eq_filled, Entry.drop_filled]
  · rw [get?_eq_valuesFor?, entries_after, Entry.valuesFor?_foldl_gather_eq_none_iff]
  · rw [get?_eq_valuesFor?, entries_after, Entry.getD_valuesFor?_foldl_gather,
      get?_eq_valuesFor?]

/-- A request that has two entries for one key from the start, and calls with a new key that is not
in ASCII. -/
theorem calls_fill_entries_repeated :
    let start : Request := ⟨[⟨"Color", ["red"]⟩, ⟨"size", ["1"]⟩, ⟨"COLOR", ["grey"]⟩]⟩
    let calls : List Call := [.extend "Länge" [], .add "cOLOR" "blue", .add "LÄNGE" "2",
      .extend "color" ["red", "green"]]
    (start.entries[0]? = some ⟨"Color", ["red"]⟩ ∧ start.entries[2]? = some ⟨"COLOR", ["grey"]⟩) ∧
      (start.after calls).entries[0]? = some ⟨"Color", ["red", "blue", "red", "green"]⟩ ∧
      (start.after calls).entries[2]? = some ⟨"COLOR", ["grey"]⟩ ∧
      (start.after calls).entries.drop 3 = [⟨"Länge", ["2"]⟩] := by
  intro start calls
  obtain ⟨-, hrun, -⟩ := calls_fill_entries
  obtain ⟨hentries, hnew, -⟩ := hrun start calls
  exact ⟨⟨rfl, rfl⟩, (hentries 0 _ rfl).trans (by decide), (hentries 2 _ rfl).trans (by decide),
    hnew.trans (by decide)⟩

end Request
end ChannelCatalog
