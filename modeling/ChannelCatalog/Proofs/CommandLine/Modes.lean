import ChannelCatalog.Proofs.CommandLine.Catalogs
import ChannelCatalog.Proofs.Json.Record
import ChannelCatalog.Proofs.Store.Lookup

/-!
# The two modes of output

A run writes what it has found as lines or as JSON.  Either way it has found the same: the JSON
spells the channels that the rows of the lines are grouped into, the channels account for each of
the rows, and nothing is written if and only if nothing was found.
-/

namespace ChannelCatalog

open Json

namespace CommandLine

/-! ## Texts -/

theorem append_lineBreak_ne_empty (text : String) : text ++ "\n" ≠ "" := by
  rw [Ne, String.append_eq_empty_iff, not_and]
  exact fun _ => by decide

/-- Every row is written, so there are no lines only if there are no rows. -/
theorem rowsText_eq_empty_iff {rows : List Row} : rowsText rows = "" ↔ rows = [] := by
  cases rows with
  | nil => exact iff_of_true rfl rfl
  | cons row rest =>
      refine iff_of_false (fun hempty => ?_) (List.cons_ne_nil row rest)
      rw [rowsText, List.map_cons, String.join_cons, String.append_eq_empty_iff] at hempty
      exact append_lineBreak_ne_empty _ hempty.1

/-- The channels are read back from what is written of them. -/
theorem read_channelsText_append (channels : List Channel) :
    read (listOf Channel.ofJson) (channelsText channels ++ "\n") = .ok channels := by
  have hspelled := spellsList_map Channel.spelled_toJson channels
  have hgrammatical : (Document.array (channels.map Channel.toJson)).IsGrammatical := by
    simp [Channel.isGrammatical_toJson]
  exact (decodes_listOf channels Channel.decodes_ofJson).read_eq_ok
    (spelledBy_toPrettyText_append hspelled hgrammatical (List.forall_mem_singleton.2 rfl))

namespace Arguments

/-! ## What a run finds -/

/-- The arguments lead to a catalog, and the search that they ask for has an outcome there. -/
def Finds (arguments : Arguments) (files : Files) (outcome : Outcome) : Prop :=
  ∃ config connection after, arguments.catalogConfig files = .ok config ∧
    Connection.ofConfig files config = (.ok connection, after) ∧
    connection.search (Criteria.ofRequest arguments.request) = .ok outcome

/-- A run finds what it writes. -/
theorem exists_finds_of_run {arguments : Arguments} {files after : Files} {sink : Sink}
    {result : Nat × String} (h : arguments.run files sink = (.ok result, after)) :
    ∃ outcome, arguments.Finds files outcome ∧ arguments.write sink outcome = .ok result := by
  unfold run at h
  split at h
  · cases h
  · rename_i config hconfig
    split at h
    · cases h
    · rename_i connection found hconnection
      have hsearch := congrArg Prod.fst h
      dsimp only [searchAndWrite] at hsearch
      split at hsearch
      · cases hsearch
      · rename_i outcome houtcome
        exact ⟨outcome, ⟨config, connection, found, hconfig, hconnection, houtcome⟩, hsearch⟩

theorem Finds.unique {arguments : Arguments} {files : Files} {outcome other : Outcome}
    (h : arguments.Finds files outcome) (hother : arguments.Finds files other) : outcome = other := by
  obtain ⟨config, connection, after, hconfig, hconnection, hsearch⟩ := h
  obtain ⟨config', connection', after', hconfig', hconnection', hsearch'⟩ := hother
  obtain rfl : config = config' := Except.ok.inj (hconfig.symm.trans hconfig')
  obtain rfl : connection = connection' :=
    Except.ok.inj (congrArg Prod.fst (hconnection.symm.trans hconnection'))
  exact Except.ok.inj (hsearch.symm.trans hsearch')

/-! ## What is written of it -/

/-- The rows are written as lines, and counted. -/
theorem write_lines_eq_ok {arguments : Arguments} {sink : Sink} {outcome : Outcome} {count : Nat}
    {text : String} (h : { arguments with json := false }.write sink outcome = .ok (count, text)) :
    count = outcome.toRows.length ∧ text = rowsText outcome.toRows := by
  unfold write writeRows at h
  dsimp only at h
  split at h
  · rename_i hempty
    cases h
    rw [List.isEmpty_iff.1 hempty]
    exact ⟨rfl, rfl⟩
  · split at h
    · rename_i hjson
      cases hjson
    · split at h
      · rename_i written hwritten
        split_ifs at hwritten
        cases hwritten
        cases h
        exact ⟨rfl, rfl⟩
      · cases h

/-- The channels are written if there are any rows, and the rows are counted. -/
theorem write_json_eq_ok {arguments : Arguments} {sink : Sink} {outcome : Outcome} {count : Nat}
    {text : String} (h : { arguments with json := true }.write sink outcome = .ok (count, text)) :
    count = outcome.toRows.length ∧
      text = if outcome.toRows = [] then "" else channelsText outcome.channels ++ "\n" := by
  unfold write writeJson at h
  dsimp only at h
  split at h
  · rename_i hempty
    cases h
    have hnone : outcome.toRows = [] := List.isEmpty_iff.1 hempty
    rw [if_pos hnone, hnone]
    exact ⟨rfl, rfl⟩
  · rename_i hsome
    have hsome : outcome.toRows ≠ [] := mt List.isEmpty_iff.2 hsome
    rw [if_neg hsome]
    split at h
    · split at h
      · rename_i written hwritten
        split_ifs at hwritten
        cases hwritten
        cases h
        exact ⟨rfl, rfl⟩
      · cases h
    · rename_i hjson
      exact absurd rfl hjson

/-- A run with a sink that takes everything writes what it finds. -/
theorem exists_run_eq (arguments : Arguments) {files after : Files} {config : Config}
    {connection : Connection} {outcome : Outcome}
    (hconfig : arguments.catalogConfig files = .ok config)
    (hconnection : Connection.ofConfig files config = (.ok connection, after))
    (hsearch : connection.search (Criteria.ofRequest arguments.request) = .ok outcome) :
    ∃ text, arguments.run files none = (.ok (outcome.toRows.length, text), after) := by
  have hrun : arguments.run files none = (arguments.write none outcome, after) := by
    rw [run, hconfig]
    simp only [hconnection, searchAndWrite, hsearch]
  have hwrite : ∃ text, arguments.write none outcome = .ok (outcome.toRows.length, text) := by
    unfold write
    split
    · rename_i hempty
      rw [List.isEmpty_iff.1 hempty]
      exact ⟨"", rfl⟩
    · split
      · exact ⟨channelsText outcome.channels ++ "\n", rfl⟩
      · exact ⟨rowsText outcome.toRows, rfl⟩
  obtain ⟨text, hwrite⟩ := hwrite
  exact ⟨text, by rw [hrun, hwrite]⟩

/-- **The two modes of output agree.**  Two runs that differ only in their mode count the same rows,
and either writes nothing if and only if there are none.  The rows that one writes as lines are those
whose channels are read from the JSON of the other, and the channels account for each of them. -/
theorem run_modes {files : Files} (hfiles : files.HoldValid) (arguments : Arguments)
    {sink other : Sink} {after after' : Files} {count number : Nat} {lines json : String}
    (hlines : { arguments with json := false }.run files sink = (.ok (count, lines), after))
    (hjson : { arguments with json := true }.run files other = (.ok (number, json), after')) :
    count = number ∧ (count = 0 ↔ lines = "") ∧ (count = 0 ↔ json = "") ∧
      ∃ outcome, arguments.Finds files outcome ∧ lines = rowsText outcome.toRows ∧
        outcome.toRows.length = count ∧
        (count ≠ 0 → read (listOf Channel.ofJson) json = .ok (Channel.groupRows outcome.toRows)) ∧
        ((Channel.groupRows outcome.toRows).map Channel.rowCount).sum = count := by
  obtain ⟨outcome, hfinds, hlines⟩ := exists_finds_of_run hlines
  obtain ⟨result, hresult, hjson⟩ := exists_finds_of_run hjson
  -- What is found does not depend on the mode.
  have hfinds : arguments.Finds files outcome := hfinds
  obtain rfl : outcome = result := hfinds.unique hresult
  obtain ⟨rfl, rfl⟩ := write_lines_eq_ok hlines
  obtain ⟨rfl, rfl⟩ := write_json_eq_ok hjson
  rw [List.length_eq_zero_iff]
  refine ⟨rfl, rowsText_eq_empty_iff.symm, ?_, outcome, hfinds, rfl, rfl, fun hsome => ?_, ?_⟩
  · split_ifs with hnone
    · exact iff_of_true hnone rfl
    · exact iff_of_false hnone (append_lineBreak_ne_empty _)
  · rw [if_neg (mt List.length_eq_zero_iff.2 hsome)]
    exact read_channelsText_append outcome.channels
  · obtain ⟨config, connection, after, -, hconnection, hsearch⟩ := hfinds
    obtain ⟨tables, wanted, hvalid, hlists⟩ :=
      (Connection.isValid_of_ofConfig hfiles hconnection).exists_lists hsearch
    exact hlists.sum_rowCount hvalid

/-- A single file, which holds the tables of the shelves. -/
def shelfFiles : Files :=
  ⟨[], [([Text.encode "shelf.db"], .catalog Store.State.shelved)]⟩

/-- Sized new channels whose names begin with an `a`. -/
def shelfArguments : Arguments :=
  { db := some "/shelf.db", names := ["A*"], tags := ["NEW"], criteria := [⟨"SIZE", some "1*"⟩] }

theorem holdValid_shelfFiles : shelfFiles.HoldValid := by
  intro place tables h
  unfold Files.find at h
  split at h
  · cases h
  · rw [shelfFiles, List.lookup_cons] at h
    split at h
    · cases h
      exact ⟨Store.State.valid_shelved, Store.State.isTextual_shelved⟩
    · cases h

/-- Both runs on the shelves write what they find there. -/
theorem run_modes_shelf :
    ∃ count lines json,
      { shelfArguments with json := false }.run shelfFiles none = (.ok (count, lines), shelfFiles) ∧
      { shelfArguments with json := true }.run shelfFiles none = (.ok (count, json), shelfFiles) ∧
      count ≠ 0 ∧ lines ≠ "" ∧
      ∃ channels, read (listOf Channel.ofJson) json = .ok channels ∧
        (channels.map Channel.rowCount).sum = count := by
  have hconnection : Connection.ofConfig shelfFiles (Config.ofPath "/shelf.db") =
      (.ok (.toTables (some Store.State.shelved)), shelfFiles) := rfl
  let state : Store.State := ⟨some Store.State.shelved, .unicode, none⟩
  obtain ⟨outcome, hsearch⟩ : ∃ outcome,
      state.search (Criteria.ofRequest shelfArguments.request) = .ok outcome :=
    Store.State.exists_search rfl Store.State.valid_shelved Store.State.isTextual_shelved
      ⟨⟨by decide, by decide, by decide⟩, by decide, by decide⟩
  have hfound : outcome.toRows ≠ [] :=
    (Store.State.answers_of_search rfl Store.State.valid_shelved Store.State.isTextual_shelved
      hsearch).lists_toRows.ne_nil (List.mem_cons_of_mem _ List.mem_cons_self)
      ⟨fun _ => by decide, fun _ => by decide⟩
  obtain ⟨lines, hlines⟩ :=
    exists_run_eq { shelfArguments with json := false } rfl hconnection hsearch
  obtain ⟨json, hjson⟩ :=
    exists_run_eq { shelfArguments with json := true } rfl hconnection hsearch
  obtain ⟨-, hempty, -, found, -, -, -, hread, hsum⟩ :=
    run_modes holdValid_shelfFiles shelfArguments hlines hjson
  have hcount : outcome.toRows.length ≠ 0 := mt List.length_eq_zero_iff.1 hfound
  exact ⟨_, lines, json, hlines, hjson, hcount, mt hempty.2 hcount, _, hread hcount, hsum⟩

end Arguments
end CommandLine
end ChannelCatalog
