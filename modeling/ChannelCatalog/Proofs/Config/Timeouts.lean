import ChannelCatalog.Proofs.Json.Decoded
import ChannelCatalog.Proofs.Json.Record

/-!
# Busy timeouts

A configuration keeps its timeout in a word of 64 bits, and a connection counts the time that it waits
in a signed word of 32 bits.  Neither reading a configuration nor changing one looks at the difference.
So whether a connection can be told to wait as long as a configuration says depends on the timeout
that the text of the configuration gives, or on the last one that was set.
-/

namespace ChannelCatalog

open Json
open Store (bind_eq_ok_iff)

theorem Duration.toMilliseconds_ofMilliseconds (milliseconds : Nat) :
    (Duration.ofMilliseconds milliseconds).toMilliseconds = milliseconds := by
  simp only [ofMilliseconds, toMilliseconds]
  omega

namespace Config

/-- The longest time that a connection can be told to wait, in milliseconds. -/
def maxWaitMs : Nat := 0x7FFFFFFF

/-- A connection can be told to wait as long as the configuration says. -/
def CanBeOpened (config : Config) : Prop :=
  config.busyTimeout.toMilliseconds ≤ maxWaitMs

instance (config : Config) : Decidable config.CanBeOpened :=
  inferInstanceAs (Decidable (_ ≤ _))

theorem toMilliseconds_busyTimeout (config : Config) :
    config.busyTimeout.toMilliseconds = config.busyTimeoutMs.toNat :=
  Duration.toMilliseconds_ofMilliseconds config.busyTimeoutMs.toNat

/-! ## Timeouts that are read -/

/-- What a document has in the place of the timeout: the member of that name, or the third item. -/
def timeoutIn? : Document → Option Document
  | .object members =>
    (members.find? fun member => unescape? member.1 = some "busy_timeout_ms".toList).map Prod.snd
  | .array items => items[2]?
  | .null | .bool _ | .number _ | .string _ => none

/-- The timeout that a text gives, in milliseconds. -/
def givenTimeout? (content : String) : Option Nat := do
  let document ← parse? content
  let .number numeral ← timeoutIn? document | none
  let .integer milliseconds ← numeral.value? | none
  return milliseconds.toNat

theorem exists_numeral_of_milliseconds {document : Document} {timeout : UInt64}
    (h : milliseconds document = .ok timeout) :
    ∃ numeral, document = .number numeral ∧
      numeral.value? = some (.integer (timeout.toNat : Int)) := by
  cases hword : unsignedWord document with
  | error error => simp [milliseconds, hword, Except.map] at h
  | ok value =>
      obtain ⟨numeral, hnumeral, hvalue, hlow, hhigh⟩ := exists_numeral_of_integerAs hword
      have htimeout : UInt64.ofNat value.toNat = timeout := by
        simpa [milliseconds, hword, Except.map] using h
      have hfits : value.toNat < UInt64.size := by
        rw [UInt64.size]
        omega
      refine ⟨numeral, hnumeral, hvalue.trans ?_⟩
      rw [← htimeout, UInt64.toNat_ofNat_of_lt' hfits, Int.toNat_of_nonneg hlow]

/-- A timeout that is read is the one in its place, or the default where there is none. -/
theorem timeoutIn?_of_ofJson {document : Document} {config : Config}
    (h : ofJson document = .ok config) :
    (timeoutIn? document).elim (config.busyTimeoutMs = defaultBusyTimeoutMs)
      fun value => milliseconds value = .ok config.busyTimeoutMs := by
  rcases cases_of_recordOf h with ⟨members, named, rfl, hnamed, h⟩ | ⟨items, rfl, h⟩
  · obtain ⟨path, -, h⟩ := bind_eq_ok_iff.1 h
    obtain ⟨readOnly, -, h⟩ := bind_eq_ok_iff.1 h
    obtain ⟨timeout, htimeout, h⟩ := bind_eq_ok_iff.1 h
    cases h
    rw [memberOr, lookup_of_memberTexts hnamed] at htimeout
    rw [timeoutIn?]
    split at htimeout
    · rename_i value hvalue
      rw [hvalue]
      exact htimeout
    · rename_i hnone
      rw [hnone]
      exact (Except.ok.inj htimeout).symm
  · obtain ⟨⟨path, afterPath⟩, hpath, h⟩ := bind_eq_ok_iff.1 h
    obtain ⟨⟨readOnly, afterReadOnly⟩, hreadOnly, h⟩ := bind_eq_ok_iff.1 h
    obtain ⟨⟨timeout, afterTimeout⟩, htimeout, h⟩ := bind_eq_ok_iff.1 h
    obtain ⟨-, -, h⟩ := bind_eq_ok_iff.1 h
    cases h
    obtain ⟨first, rfl, -⟩ := exists_item_of_nextItem hpath
    -- Only an array of three items or more has a timeout, and the decoder stops at three.
    rcases cases_of_nextItemOr hreadOnly with ⟨rfl, -, rfl⟩ | ⟨second, rfl, -⟩
    · rcases cases_of_nextItemOr htimeout with ⟨-, rfl, -⟩ | ⟨third, hthird, -⟩
      · rfl
      · cases hthird
    · rcases cases_of_nextItemOr htimeout with ⟨rfl, rfl, -⟩ | ⟨third, rfl, hthird⟩
      · rfl
      · exact hthird

theorem read_of_ofText {content : String} {config : Config} (h : ofText content = .ok config) :
    Json.read ofJson content = .ok config := by
  unfold ofText at h
  split at h
  · cases h
  · rename_i decoded hread
    split at h
    · cases h
    · cases h
      exact hread

/-- **The timeout of a configuration that is read** is the one that the text gives, or the default. -/
theorem toMilliseconds_busyTimeout_of_ofText {content : String} {config : Config}
    (h : ofText content = .ok config) :
    config.busyTimeout.toMilliseconds = (givenTimeout? content).getD 5000 := by
  obtain ⟨document, hparsed, hdecoded⟩ := read_eq_ok_iff.1 (read_of_ofText h)
  have htimeout := timeoutIn?_of_ofJson hdecoded
  rw [toMilliseconds_busyTimeout, givenTimeout?, hparsed]
  cases hplace : timeoutIn? document with
  | none =>
      rw [hplace] at htimeout
      have hdefault : config.busyTimeoutMs = defaultBusyTimeoutMs := htimeout
      simp [hplace, hdefault, defaultBusyTimeoutMs]
  | some value =>
      rw [hplace] at htimeout
      obtain ⟨numeral, rfl, hvalue⟩ := exists_numeral_of_milliseconds htimeout
      simp [hplace, hvalue]

/-! ## Timeouts that are set -/

/-- A change to a configuration. -/
inductive Setting
  | readOnly (readOnly : Bool)
  | busyTimeout (timeout : Duration)
deriving DecidableEq, Repr

/-- The timeout that is set, if it is one. -/
def Setting.timeout? : Setting → Option Duration
  | .readOnly _ => none
  | .busyTimeout timeout => some timeout

def set (config : Config) : Setting → Config
  | .readOnly readOnly => config.withReadOnly readOnly
  | .busyTimeout timeout => config.withBusyTimeout timeout

/-- The last timeout that is set. -/
def lastTimeout? (settings : List Setting) : Option Duration :=
  (settings.filterMap Setting.timeout?).getLast?

/-- The milliseconds that are kept of a timeout: all that fit in a word of 64 bits. -/
def keptMs (timeout : Duration) : Nat :=
  min timeout.toMilliseconds 0xFFFFFFFFFFFFFFFF

theorem toMilliseconds_busyTimeout_set (config : Config) (setting : Setting) :
    (config.set setting).busyTimeout.toMilliseconds =
      (setting.timeout?.map keptMs).getD config.busyTimeout.toMilliseconds := by
  rw [toMilliseconds_busyTimeout, toMilliseconds_busyTimeout]
  cases setting with
  | readOnly readOnly => rfl
  | busyTimeout timeout =>
      have hfits : keptMs timeout < UInt64.size := by
        rw [keptMs, UInt64.size]
        omega
      rw [set, withBusyTimeout, Setting.timeout?, Option.map_some, Option.getD_some, ← keptMs,
        UInt64.toNat_ofNat_of_lt' hfits]

/-- A later timeout takes the place of an earlier one. -/
theorem lastTimeout?_cons (setting : Setting) (rest : List Setting) :
    lastTimeout? (setting :: rest) = (lastTimeout? rest).or setting.timeout? := by
  have hfirst : ([setting].filterMap Setting.timeout?).getLast? = setting.timeout? := by
    cases setting <;> rfl
  rw [lastTimeout?, ← List.singleton_append, List.filterMap_append, List.getLast?_append, hfirst,
    ← lastTimeout?]

/-- **The timeout after any settings** is the last one set, as far as it is kept. -/
theorem toMilliseconds_busyTimeout_foldl_set (config : Config) (settings : List Setting) :
    (settings.foldl set config).busyTimeout.toMilliseconds =
      ((lastTimeout? settings).map keptMs).getD config.busyTimeout.toMilliseconds := by
  induction settings generalizing config with
  | nil => rw [lastTimeout?, List.filterMap_nil, List.getLast?_nil, Option.map_none,
      Option.getD_none, List.foldl_nil]
  | cons setting rest ih =>
      rw [List.foldl_cons, ih, toMilliseconds_busyTimeout_set, lastTimeout?_cons, Option.map_or,
        Option.getD_or]

/-! ## Opening -/

theorem keptMs_le_maxWaitMs_iff {timeout : Duration} :
    keptMs timeout ≤ maxWaitMs ↔ timeout.toMilliseconds ≤ maxWaitMs := by
  simp only [keptMs, maxWaitMs]
  omega

/-- Settings keep a configuration one that can be opened if the last timeout is not too long. -/
theorem CanBeOpened.foldl_set_iff {config : Config} (h : config.CanBeOpened)
    {settings : List Setting} :
    (settings.foldl set config).CanBeOpened ↔
      ∀ timeout ∈ lastTimeout? settings, timeout.toMilliseconds ≤ maxWaitMs := by
  rw [CanBeOpened, toMilliseconds_busyTimeout_foldl_set]
  cases lastTimeout? settings with
  | none =>
      rw [Option.map_none, Option.getD_none]
      exact iff_of_true h fun _ htimeout => nomatch htimeout
  | some timeout =>
      rw [Option.map_some, Option.getD_some, keptMs_le_maxWaitMs_iff]
      simp

theorem canBeOpened_of_default {config : Config}
    (h : config.busyTimeoutMs = defaultBusyTimeoutMs) : config.CanBeOpened := by
  rw [CanBeOpened, toMilliseconds_busyTimeout, h]
  simp [defaultBusyTimeoutMs, maxWaitMs]

/-- **Which configurations can be opened.**  One that is read from a text can be, unless the text gives
a longer timeout than a connection takes.  One that is made by settings can be, unless the last timeout
that was set is longer than that. -/
theorem canBeOpened_unless_longer (content : String) (config : Config) (path : String)
    (settings : List Setting) :
    (ofText content = .ok config →
      (config.CanBeOpened ↔
        ∀ milliseconds ∈ givenTimeout? content, milliseconds ≤ maxWaitMs)) ∧
    ((settings.foldl set (ofPath path)).CanBeOpened ↔
      ∀ timeout ∈ lastTimeout? settings, timeout.toMilliseconds ≤ maxWaitMs) ∧
    ((settings.foldl set inMemory).CanBeOpened ↔
      ∀ timeout ∈ lastTimeout? settings, timeout.toMilliseconds ≤ maxWaitMs) := by
  refine ⟨fun h => ?_, (canBeOpened_of_default rfl).foldl_set_iff,
    (canBeOpened_of_default rfl).foldl_set_iff⟩
  rw [CanBeOpened, toMilliseconds_busyTimeout_of_ofText h]
  cases givenTimeout? content with
  | none => simp [maxWaitMs]
  | some milliseconds => simp

/-- A configuration that is read with the longest timeout that a connection takes, and two that are
made with it, each after a longer one. -/
theorem canBeOpened_longest :
    let config : Config := ⟨"channels.db", false, 0x7FFFFFFF⟩
    let settings : List Setting := [.busyTimeout ⟨0xFFFFFFFFFFFFFFFF, 999999999⟩,
      .busyTimeout ⟨2147483, 647999999⟩, .readOnly false]
    let content := (Document.array [.text "channels.db", .bool false, .int 0x7FFFFFFF]).toText
    (ofText content = .ok config ∧ givenTimeout? content = some maxWaitMs ∧ config.CanBeOpened) ∧
      (settings.foldl set (ofPath "channels.db")).CanBeOpened ∧
      (settings.foldl set inMemory).CanBeOpened := by
  intro config settings content
  obtain ⟨hread, hpath, hmemory⟩ := canBeOpened_unless_longer content config "channels.db" settings
  have hcontent : ofText content = .ok config := by
    have hspelled : config.Spelled (.array [.text "channels.db", .bool false, .int 0x7FFFFFFF]) :=
      .array (.item (spellsText_text "channels.db") (.item rfl (.item rfl
        (.done (List.forall_mem_nil _)))))
    exact ofText_eq_ok (by decide) (spelledBy_toText hspelled (by simp))
  have hgiven : givenTimeout? content = some maxWaitMs := by
    have hkept : config.busyTimeout.toMilliseconds = maxWaitMs := by decide
    have htimeout := toMilliseconds_busyTimeout_of_ofText hcontent
    rw [hkept] at htimeout
    cases hgiven : givenTimeout? content with
    | none => simp [hgiven, maxWaitMs] at htimeout
    | some milliseconds => simp [hgiven, htimeout]
  have hlast : ∀ timeout ∈ lastTimeout? settings, timeout.toMilliseconds ≤ maxWaitMs := by decide
  have hshort : ∀ milliseconds ∈ givenTimeout? content, milliseconds ≤ maxWaitMs := by
    simp [hgiven]
  exact ⟨⟨hcontent, hgiven, (hread hcontent).2 hshort⟩, hpath.2 hlast, hmemory.2 hlast⟩

/-- A timeout that is longer by one millisecond is read, and it can be set. -/
theorem canBeOpened_fails_one_longer :
    let config : Config := ⟨"channels.db", true, 0x80000000⟩
    let document := Document.record [("path", .text "channels.db"),
      ("busy_timeout_ms", .int 0x80000000)]
    ofText document.toText = .ok config ∧ ¬ config.CanBeOpened ∧
      ¬ ((ofPath "channels.db").withBusyTimeout ⟨2147483, 648000000⟩).CanBeOpened := by
  intro config document
  have hspelled : config.Spelled document := by
    refine spellsRecord_record ?_
    simp [config, spelledFields, Field.required, Field.defaulted, Field.IsGiven, spellsText_text,
      defaultReadOnly]
  have hread : ofText document.toText = .ok config :=
    ofText_eq_ok (by decide) (spelledBy_toText hspelled (by simp [document]))
  exact ⟨hread, by decide, by decide⟩

end Config
end ChannelCatalog
