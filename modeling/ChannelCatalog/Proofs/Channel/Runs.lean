import ChannelCatalog.Proofs.Channel.Grouping
import Mathlib.Data.List.Chain

/-!
# Runs of rows

Rows in whatever order are split in one way into maximal runs: the rows of a run are of one channel,
and runs next to each other are of different channels (`Run.existsUnique_maximal`).  Grouping makes
one channel of each run (`Run.groupRows_of_maximal`).

A channel is listed in rows of its own, which are a run.  So channels are what is grouped from their
rows, if no two next to each other have one name (`Channel.groupRows_flatMap_rows`).
-/

namespace ChannelCatalog

/-- Consecutive rows of one channel. -/
@[ext]
structure Run where
  first : Row
  more : List Row
  uniform : ∀ row ∈ more, row.channelName = first.channelName

namespace Run

def rows (run : Run) : List Row :=
  run.first :: run.more

/-- The channel of a run: it has the name and the owner of the first row, and the properties and the
tags that the rows carry. -/
def channel (run : Run) : Channel :=
  Channel.ofRun run.first run.more

/-- No run can be made longer, since the next row is of another channel. -/
def Maximal (runs : List Run) : Prop :=
  runs.IsChain fun run next => run.first.channelName ≠ next.first.channelName

instance : DecidablePred Maximal :=
  fun runs => inferInstanceAs (Decidable (runs.IsChain _))

/-- The rows after a run begin with the first row of the next run. -/
theorem head?_flatMap_rows (runs : List Run) :
    (runs.flatMap rows).head? = runs.head?.map first := by
  cases runs with
  | nil => rfl
  | cons run rest => rfl

/-- So they begin with another channel. -/
theorem Maximal.ne_of_mem_head? {run : Run} {rest : List Run} (h : Maximal (run :: rest)) :
    ∀ row ∈ (rest.flatMap rows).head?, row.channelName ≠ run.first.channelName := by
  intro row hrow
  rw [head?_flatMap_rows] at hrow
  obtain ⟨next, hnext, rfl⟩ := Option.map_eq_some_iff.1 hrow
  exact ((List.isChain_cons.1 h).1 next hnext).symm

theorem Maximal.tail {run : Run} {rest : List Run} (h : Maximal (run :: rest)) : Maximal rest :=
  (List.isChain_cons.1 h).2

/-- **Each maximal run becomes one channel.** -/
theorem groupRows_of_maximal {runs : List Run} (h : Maximal runs) :
    Channel.groupRows (runs.flatMap rows) = runs.map channel := by
  induction runs with
  | nil => rfl
  | cons run rest ih =>
      rw [List.flatMap_cons, rows, Channel.groupRows_run_append run.uniform h.ne_of_mem_head?,
        ih h.tail, List.map_cons, channel]

/-! ## Splitting rows -/

/-- One more row in front is of the first run, or it is a run of its own. -/
theorem exists_maximal (rows : List Row) : ∃ runs, Maximal runs ∧ runs.flatMap Run.rows = rows := by
  induction rows with
  | nil => exact ⟨[], List.isChain_nil, rfl⟩
  | cons row rest ih =>
      obtain ⟨runs, hmaximal, rfl⟩ := ih
      have halone : ∀ other ∈ ([] : List Row), other.channelName = row.channelName :=
        List.forall_mem_nil _
      cases runs with
      | nil => exact ⟨[⟨row, [], halone⟩], List.isChain_singleton _, rfl⟩
      | cons next others =>
          by_cases hname : next.first.channelName = row.channelName
          · have huniform : ∀ other ∈ next.rows, other.channelName = row.channelName :=
              List.forall_mem_cons.2
                ⟨hname, fun other hother => (next.uniform other hother).trans hname⟩
            refine ⟨⟨row, next.rows, huniform⟩ :: others, List.isChain_cons.2 ⟨?_, hmaximal.tail⟩, rfl⟩
            intro other hother
            exact hname ▸ (List.isChain_cons.1 hmaximal).1 other hother
          · refine ⟨⟨row, [], halone⟩ :: next :: others, List.isChain_cons.2 ⟨?_, hmaximal⟩, rfl⟩
            intro other hother
            obtain rfl : next = other := Option.some.inj hother
            exact Ne.symm hname

/-- A maximal run ends before the first row of another channel. -/
theorem Maximal.takeWhile_rows {run : Run} {rest : List Run} (h : Maximal (run :: rest)) :
    (run.more ++ rest.flatMap rows).takeWhile
      (fun row => row.channelName = run.first.channelName) = run.more := by
  have hrun : ∀ row ∈ run.more, decide (row.channelName = run.first.channelName) = true :=
    fun row hrow => decide_eq_true (run.uniform row hrow)
  have hrest : (rest.flatMap rows).takeWhile
      (fun row => row.channelName = run.first.channelName) = [] := by
    have hhead := h.ne_of_mem_head?
    cases hrows : rest.flatMap rows with
    | nil => rfl
    | cons row others =>
        have hother := hhead row (hrows ▸ rfl)
        rw [List.takeWhile_cons, if_neg (by simpa using hother)]
  rw [List.takeWhile_append_of_pos hrun, hrest, List.append_nil]

theorem Maximal.unique {runs others : List Run} (h : Maximal runs) (hothers : Maximal others)
    (hrows : runs.flatMap rows = others.flatMap rows) : runs = others := by
  induction runs generalizing others with
  | nil =>
      cases others with
      | nil => rfl
      | cons other more => cases hrows
  | cons run rest ih =>
      cases others with
      | nil => cases hrows
      | cons other more =>
          obtain ⟨hfirst, hmore⟩ : run.first = other.first ∧
              run.more ++ rest.flatMap rows = other.more ++ more.flatMap rows :=
            List.cons.inj hrows
          have hrun : run.more = other.more := by
            rw [← h.takeWhile_rows, ← hothers.takeWhile_rows, hmore, hfirst]
          rw [hrun, List.append_cancel_left_eq] at hmore
          rw [Run.ext hfirst hrun, ih h.tail hothers.tail hmore]

/-- **Rows are split into maximal runs in one way.** -/
theorem existsUnique_maximal (rows : List Row) :
    ∃! runs, Maximal runs ∧ runs.flatMap Run.rows = rows := by
  obtain ⟨runs, hmaximal, hrows⟩ := exists_maximal rows
  exact ⟨runs, ⟨hmaximal, hrows⟩, fun others hothers =>
    hothers.1.unique hmaximal (hothers.2.trans hrows.symm)⟩

end Run

namespace Channel

/-- Channels next to each other are told apart by their names. -/
def NeighboursDiffer (channels : List Channel) : Prop :=
  channels.IsChain fun channel next => channel.name ≠ next.name

instance : DecidablePred NeighboursDiffer :=
  fun channels => inferInstanceAs (Decidable (channels.IsChain _))

theorem neighboursDiffer_groupRows (rows : List Row) : NeighboursDiffer (groupRows rows) := by
  obtain ⟨runs, hmaximal, rfl⟩ := Run.exists_maximal rows
  rw [Run.groupRows_of_maximal hmaximal]
  exact List.isChain_map_of_isChain Run.channel (fun _ _ hname => hname) hmaximal

/-! ## The rows of a channel -/

/-- The row of a property. -/
def propertyRow (channel : Channel) (property : Property) : Row :=
  ⟨channel.name, channel.owner, some property.name, some property.value, property.owner⟩

/-- The row of a tag. -/
def tagRow (channel : Channel) (tag : Tag) : Row :=
  ⟨channel.name, channel.owner, some tag.name, none, tag.owner⟩

/-- The row of a channel that has neither. -/
def bareRow (channel : Channel) : Row :=
  ⟨channel.name, channel.owner, none, none, none⟩

/-- The rows of properties and tags. -/
def carriedRows (channel : Channel) : List Row :=
  channel.properties.map channel.propertyRow ++ channel.tags.map channel.tagRow

/-- The rows of a channel: those of its properties and then those of its tags. -/
def rows (channel : Channel) : List Row :=
  if channel.carriedRows.isEmpty then [channel.bareRow] else channel.carriedRows

theorem rows_ne_nil (channel : Channel) : channel.rows ≠ [] := by
  unfold rows
  split
  · exact List.cons_ne_nil _ _
  · rename_i hcarried
    simpa using hcarried

/-- Every row of a channel has its name and its owner. -/
theorem eq_of_mem_rows {channel : Channel} {row : Row} (h : row ∈ channel.rows) :
    row.channelName = channel.name ∧ row.channelOwner = channel.owner := by
  unfold rows at h
  split at h
  · obtain rfl := List.mem_singleton.1 h
    exact ⟨rfl, rfl⟩
  · rcases List.mem_append.1 h with hmem | hmem
    · obtain ⟨property, -, rfl⟩ := List.mem_map.1 hmem
      exact ⟨rfl, rfl⟩
    · obtain ⟨tag, -, rfl⟩ := List.mem_map.1 hmem
      exact ⟨rfl, rfl⟩

theorem filterMap_rows {α : Type} {carry : Row → Option α} {channel : Channel}
    (hbare : carry channel.bareRow = none) :
    channel.rows.filterMap carry =
      channel.properties.filterMap (carry ∘ channel.propertyRow) ++
        channel.tags.filterMap (carry ∘ channel.tagRow) := by
  rw [← List.filterMap_map, ← List.filterMap_map, ← List.filterMap_append, ← carriedRows, rows]
  split
  · rename_i hcarried
    rw [List.isEmpty_iff.1 hcarried, List.filterMap_cons, hbare]
  · rfl

theorem filterMap_property?_rows (channel : Channel) :
    channel.rows.filterMap Row.property? = channel.properties := by
  have hproperty : Row.property? ∘ channel.propertyRow = some := rfl
  have htag : Row.property? ∘ channel.tagRow = fun _ => none := rfl
  rw [filterMap_rows rfl, hproperty, htag, List.filterMap_some, List.filterMap_none, List.append_nil]

theorem filterMap_tag?_rows (channel : Channel) :
    channel.rows.filterMap Row.tag? = channel.tags := by
  have hproperty : Row.tag? ∘ channel.propertyRow = fun _ => none := rfl
  have htag : Row.tag? ∘ channel.tagRow = some := rfl
  rw [filterMap_rows rfl, hproperty, htag, List.filterMap_some, List.filterMap_none, List.nil_append]

/-- The rows of a channel are a run. -/
def run (channel : Channel) : Run where
  first := channel.rows.head channel.rows_ne_nil
  more := channel.rows.tail
  uniform _ hrow :=
    (eq_of_mem_rows (List.mem_of_mem_tail hrow)).1.trans
      (eq_of_mem_rows (List.head_mem channel.rows_ne_nil)).1.symm

theorem rows_run (channel : Channel) : channel.run.rows = channel.rows :=
  List.cons_head_tail channel.rows_ne_nil

theorem channel_run (channel : Channel) : channel.run.channel = channel := by
  obtain ⟨hname, howner⟩ := eq_of_mem_rows (List.head_mem channel.rows_ne_nil)
  calc channel.run.channel
      = ⟨channel.run.first.channelName, channel.run.first.channelOwner,
          channel.run.rows.filterMap Row.property?, channel.run.rows.filterMap Row.tag?⟩ := rfl
    _ = ⟨channel.name, channel.owner, channel.properties, channel.tags⟩ := by
        rw [rows_run, filterMap_property?_rows, filterMap_tag?_rows, run, hname, howner]
    _ = channel := rfl

/-- **Channels are what is grouped from their rows.** -/
theorem groupRows_flatMap_rows {channels : List Channel} (h : NeighboursDiffer channels) :
    groupRows (channels.flatMap rows) = channels := by
  have hmaximal : Run.Maximal (channels.map run) := by
    refine List.isChain_map_of_isChain run (fun channel next hname => ?_) h
    rw [run, run, (eq_of_mem_rows (List.head_mem channel.rows_ne_nil)).1,
      (eq_of_mem_rows (List.head_mem next.rows_ne_nil)).1]
    exact hname
  have hrows : channels.flatMap rows = (channels.map run).flatMap Run.rows := by
    rw [List.flatMap_map]
    exact List.flatMap_congr fun channel _ => channel.rows_run.symm
  rw [hrows, Run.groupRows_of_maximal hmaximal, List.map_map]
  exact (List.map_congr_left fun channel _ => channel.channel_run).trans (List.map_id channels)

/-- **Grouping makes one channel of each maximal run of rows**, in whatever order the rows are.  So
channels next to each other have different names, and channels of which this is so are what is
grouped from their rows. -/
theorem groupRows_makes_runs :
    (∀ rows : List Row,
      (∃! runs, Run.Maximal runs ∧ runs.flatMap Run.rows = rows) ∧
      (∀ runs, Run.Maximal runs → runs.flatMap Run.rows = rows →
        groupRows rows = runs.map Run.channel) ∧
      NeighboursDiffer (groupRows rows)) ∧
    ∀ channels, NeighboursDiffer channels → groupRows (channels.flatMap Channel.rows) = channels :=
  ⟨fun rows => ⟨Run.existsUnique_maximal rows,
    fun _ hmaximal hrows => hrows ▸ Run.groupRows_of_maximal hmaximal,
    neighboursDiffer_groupRows rows⟩, fun _ => groupRows_flatMap_rows⟩

/-- Rows out of order: a channel comes back after another one, and a row has a value without a name. -/
theorem groupRows_makes_runs_interleaved :
    let runs : List Run :=
      [⟨⟨"b", "x", some "size", some "12", none⟩, [⟨"b", "y", none, some "stray", none⟩], by decide⟩,
        ⟨⟨"a", "x", some "New", none, some "you"⟩, [], by decide⟩,
        ⟨⟨"b", "z", some "Old", none, none⟩, [], by decide⟩]
    let channels : List Channel :=
      [⟨"b", "x", [⟨"size", "12", none⟩], []⟩, ⟨"a", "x", [], [⟨"New", some "you"⟩]⟩,
        ⟨"b", "z", [], [⟨"Old", none⟩]⟩]
    (Run.Maximal runs ∧ groupRows (runs.flatMap Run.rows) = channels) ∧
      NeighboursDiffer channels ∧ groupRows (channels.flatMap Channel.rows) = channels := by
  intro runs channels
  obtain ⟨hgroup, hback⟩ := groupRows_makes_runs
  obtain ⟨-, hruns, -⟩ := hgroup (runs.flatMap Run.rows)
  have hmaximal : Run.Maximal runs := by decide
  have hdiffer : NeighboursDiffer channels := by decide
  exact ⟨⟨hmaximal, hruns runs hmaximal rfl⟩, hdiffer, hback channels hdiffer⟩

end Channel
end ChannelCatalog
