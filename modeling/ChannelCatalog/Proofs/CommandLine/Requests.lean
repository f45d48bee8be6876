import ChannelCatalog.CommandLine.Arguments
import ChannelCatalog.Proofs.Criteria.Grouping

/-!
# Requests of the command line

A reserved key on the command line asks for what the option of its name asks for.  The request may
come out differently: its entries stand in another order, and their keys are spelled otherwise.  It
is sorted into the same criteria.
-/

namespace ChannelCatalog

open Text (asciiLower)

/-! ## What sorting sees of a request -/

namespace Request

theorem nameGlobs_ofEntries (entries : List Entry) :
    (ofEntries entries).nameGlobs = nameGlobs ⟨entries⟩ := by
  have hgathered := nameGlobs_eq_valuesAt (ofEntries entries).entries
  rwa [entries_ofEntries, Entry.valuesAt_foldl_gather, ← nameGlobs_eq_valuesAt,
    ← entries_ofEntries] at hgathered

theorem tags_ofEntries (entries : List Entry) : (ofEntries entries).tags = tags ⟨entries⟩ := by
  have hgathered := tags_eq_valuesAt (ofEntries entries).entries
  rwa [entries_ofEntries, Entry.valuesAt_foldl_gather, ← tags_eq_valuesAt,
    ← entries_ofEntries] at hgathered

theorem properties_ofEntries (entries : List Entry) :
    (ofEntries entries).properties = (properties ⟨entries⟩).foldl Entry.gather [] := by
  have hgathered : ((entries.foldl Entry.gather []).filter fun entry =>
        entry.foldedKey ≠ nameKey ∧ entry.foldedKey ≠ tagKey) =
      (entries.filter fun entry =>
        entry.foldedKey ≠ nameKey ∧ entry.foldedKey ≠ tagKey).foldl Entry.gather [] :=
    Entry.filter_foldl_gather (fun folded => folded ≠ nameKey ∧ folded ≠ tagKey) entries []
  rwa [← entries_ofEntries, ← properties_eq_filter, ← properties_eq_filter] at hgathered

end Request

namespace Criteria

theorem ofRequest_congr {request other : Request} (hnames : request.nameGlobs = other.nameGlobs)
    (htags : request.tags = other.tags) (hproperties : request.properties = other.properties) :
    ofRequest request = ofRequest other := by
  obtain ⟨entries⟩ := request
  obtain ⟨others⟩ := other
  rw [ofRequest, ofRequest, foldl_addEntry, foldl_addEntry, hnames, htags, hproperties]

/-- Requests are sorted alike if the entries added are the same within each kind. -/
theorem ofRequest_ofEntries_congr {entries others : List Entry}
    (hnames : Request.nameGlobs ⟨entries⟩ = Request.nameGlobs ⟨others⟩)
    (htags : Request.tags ⟨entries⟩ = Request.tags ⟨others⟩)
    (hproperties : Request.properties ⟨entries⟩ = Request.properties ⟨others⟩) :
    ofRequest (.ofEntries entries) = ofRequest (.ofEntries others) :=
  ofRequest_congr
    (by rw [Request.nameGlobs_ofEntries, hnames, Request.nameGlobs_ofEntries])
    (by rw [Request.tags_ofEntries, htags, Request.tags_ofEntries])
    (by rw [Request.properties_ofEntries, hproperties, Request.properties_ofEntries])

end Criteria

namespace CommandLine

/-! ## Criteria of the command line -/

namespace Criterion

/-- The entry that a criterion adds. -/
def entry (criterion : Criterion) : Entry :=
  ⟨criterion.key, criterion.value.toList⟩

/-- Whether a criterion asks for what the option of its key asks for. -/
def IsReserved (criterion : Criterion) : Prop :=
  asciiLower criterion.key = nameKey ∨ asciiLower criterion.key = tagKey

instance : DecidablePred IsReserved :=
  fun _ => inferInstanceAs (Decidable (_ ∨ _))

/-- The values that criteria have for a reserved key, in any letter case. -/
def valuesOf (key : String) (criteria : List Criterion) : List String :=
  (criteria.filter fun criterion => asciiLower criterion.key = key).flatMap
    fun criterion => criterion.value.toList

/-- A criterion without a value gives none to its key. -/
theorem valuesOf_append_cons (key : String) (before after : List Criterion) {bare : Criterion}
    (hvalue : bare.value = none) :
    valuesOf key (before ++ bare :: after) = valuesOf key (before ++ after) := by
  by_cases hkey : asciiLower bare.key = key <;> simp [valuesOf, hkey, hvalue]

end Criterion

/-! ## Entries of an option -/

/-- The entry of an option, if the option is given. -/
def optionEntries (key : String) (values : List String) : List Entry :=
  if values.isEmpty then [] else [⟨key, values⟩]

theorem foldl_extend_optionEntries (request : Request) (key : String) (values : List String) :
    (optionEntries key values).foldl (fun request entry => request.extend entry.key entry.values)
      request = if values.isEmpty then request else request.extend key values := by
  unfold optionEntries
  split <;> rfl

/-- An option gives its values to its own key only. -/
theorem flatMap_values_optionEntries {reserved : String}
    (hreserved : asciiLower reserved = reserved) (values : List String) (key : String) :
    ((optionEntries reserved values).filter fun entry => asciiLower entry.key = key).flatMap
      Entry.values = if reserved = key then values else [] := by
  cases values with
  | nil => simp [optionEntries]
  | cons value rest =>
      rcases eq_or_ne reserved key with rfl | hother
      · simp [optionEntries, hreserved]
      · simp [optionEntries, hreserved, hother]

/-- An option is no criterion on a property. -/
theorem properties_optionEntries {reserved : String}
    (hreserved : asciiLower reserved = nameKey ∨ asciiLower reserved = tagKey)
    (values : List String) : Request.properties ⟨optionEntries reserved values⟩ = [] := by
  cases values with
  | nil => rfl
  | cons value rest =>
      simpa [optionEntries, Request.properties, or_iff_not_imp_left] using hreserved

namespace Arguments

/-! ## Entries of the arguments -/

/-- The entries that make up the request, in the order in which they are added. -/
def entries (arguments : Arguments) : List Entry :=
  optionEntries nameKey arguments.names ++ optionEntries tagKey arguments.tags ++
    arguments.criteria.map Criterion.entry

theorem request_eq_ofEntries (arguments : Arguments) :
    arguments.request = .ofEntries arguments.entries := by
  rw [Request.ofEntries, entries, List.foldl_append, List.foldl_append, foldl_extend_optionEntries,
    foldl_extend_optionEntries, List.foldl_map]
  rfl

/-- The values that the entries have for a reserved key: those of its option come first. -/
theorem flatMap_values_entries (arguments : Arguments) (key : String) :
    (arguments.entries.filter fun entry => asciiLower entry.key = key).flatMap Entry.values =
      (if nameKey = key then arguments.names else []) ++
        (if tagKey = key then arguments.tags else []) ++
        Criterion.valuesOf key arguments.criteria := by
  have hname : asciiLower nameKey = nameKey := by decide
  have htag : asciiLower tagKey = tagKey := by decide
  rw [entries, List.filter_append, List.filter_append, List.flatMap_append, List.flatMap_append,
    flatMap_values_optionEntries hname, flatMap_values_optionEntries htag, List.filter_map,
    List.flatMap_map]
  rfl

theorem nameGlobs_entries (arguments : Arguments) :
    Request.nameGlobs ⟨arguments.entries⟩ =
      arguments.names ++ Criterion.valuesOf nameKey arguments.criteria := by
  have hvalues := arguments.flatMap_values_entries nameKey
  rwa [if_pos rfl, if_neg (by decide), List.append_nil] at hvalues

theorem tags_entries (arguments : Arguments) :
    Request.tags ⟨arguments.entries⟩ =
      arguments.tags ++ Criterion.valuesOf tagKey arguments.criteria := by
  have hvalues := arguments.flatMap_values_entries tagKey
  rwa [if_neg (by decide), if_pos rfl, List.nil_append] at hvalues

theorem properties_entries (arguments : Arguments) :
    Request.properties ⟨arguments.entries⟩ =
      (arguments.criteria.filter fun criterion => ¬ criterion.IsReserved).map Criterion.entry := by
  have hcriteria : (fun criterion : Criterion => decide (¬ criterion.IsReserved)) =
      fun criterion => decide (asciiLower criterion.entry.key ≠ nameKey ∧
        asciiLower criterion.entry.key ≠ tagKey) := by
    funext criterion
    exact decide_eq_decide.2 not_or
  have hname : Request.properties ⟨optionEntries nameKey arguments.names⟩ = [] :=
    properties_optionEntries (Or.inl (by decide)) arguments.names
  have htag : Request.properties ⟨optionEntries tagKey arguments.tags⟩ = [] :=
    properties_optionEntries (Or.inr (by decide)) arguments.tags
  rw [Request.properties] at hname htag ⊢
  rw [entries, List.filter_append, List.filter_append, hname, htag, List.nil_append, List.nil_append,
    List.filter_map, hcriteria]
  rfl

/-- Arguments ask for the same criteria if they give the same values for each reserved key and the
same other criteria. -/
theorem ofRequest_request_congr {arguments others : Arguments}
    (hnames : arguments.names ++ Criterion.valuesOf nameKey arguments.criteria =
      others.names ++ Criterion.valuesOf nameKey others.criteria)
    (htags : arguments.tags ++ Criterion.valuesOf tagKey arguments.criteria =
      others.tags ++ Criterion.valuesOf tagKey others.criteria)
    (hcriteria : (arguments.criteria.filter fun criterion => ¬ criterion.IsReserved) =
      others.criteria.filter fun criterion => ¬ criterion.IsReserved) :
    Criteria.ofRequest arguments.request = Criteria.ofRequest others.request := by
  rw [request_eq_ofEntries, request_eq_ofEntries]
  refine Criteria.ofRequest_ofEntries_congr ?_ ?_ ?_
  · rw [nameGlobs_entries, hnames, nameGlobs_entries]
  · rw [tags_entries, htags, tags_entries]
  · rw [properties_entries, hcriteria, properties_entries]

/-! ## Reserved keys -/

/-- The arguments with the values of reserved keys given to the options. -/
def reservedAsOptions (arguments : Arguments) : Arguments :=
  { arguments with
    names := arguments.names ++ Criterion.valuesOf nameKey arguments.criteria
    tags := arguments.tags ++ Criterion.valuesOf tagKey arguments.criteria
    criteria := arguments.criteria.filter fun criterion =>
      ¬ (criterion.IsReserved ∧ criterion.value.isSome) }

/-- No values are left for a reserved key once they have been given to its option. -/
theorem valuesOf_reservedAsOptions (arguments : Arguments) {key : String}
    (hkey : key = nameKey ∨ key = tagKey) :
    Criterion.valuesOf key arguments.reservedAsOptions.criteria = [] := by
  rw [Criterion.valuesOf, List.flatMap_eq_nil_iff]
  intro criterion hcriterion
  obtain ⟨hleft, hreserved⟩ := List.mem_filter.1 hcriterion
  obtain ⟨-, hleft⟩ := List.mem_filter.1 hleft
  simp only [decide_eq_true_eq] at hleft hreserved
  -- What is left of a reserved key has no value.
  have hbare : ¬ criterion.value.isSome := fun hvalue =>
    hleft ⟨hkey.imp hreserved.trans hreserved.trans, hvalue⟩
  rw [Option.not_isSome_iff_eq_none.1 hbare]
  rfl

/-- The other criteria stay. -/
theorem filter_reservedAsOptions (arguments : Arguments) :
    (arguments.reservedAsOptions.criteria.filter fun criterion => ¬ criterion.IsReserved) =
      arguments.criteria.filter fun criterion => ¬ criterion.IsReserved := by
  rw [reservedAsOptions, List.filter_filter]
  refine List.filter_congr fun criterion _ => ?_
  simp only [← Bool.decide_and]
  exact decide_eq_decide.2 (and_iff_left_of_imp fun hother hreserved => hother hreserved.1)

/-- **A reserved key asks for what its option asks for**, in any letter case and wherever it stands,
and without a value it asks for nothing. -/
theorem ofRequest_reservedAsOptions (arguments : Arguments) :
    Criteria.ofRequest arguments.request =
        Criteria.ofRequest arguments.reservedAsOptions.request ∧
      ∀ (before after : List Criterion) (bare : Criterion),
        arguments.criteria = before ++ bare :: after → bare.IsReserved → bare.value = none →
        Criteria.ofRequest arguments.request =
          Criteria.ofRequest { arguments with criteria := before ++ after }.request := by
  constructor
  · refine ofRequest_request_congr ?_ ?_ arguments.filter_reservedAsOptions.symm
    · rw [valuesOf_reservedAsOptions arguments (Or.inl rfl), List.append_nil]
      rfl
    · rw [valuesOf_reservedAsOptions arguments (Or.inr rfl), List.append_nil]
      rfl
  · intro before after bare hcriteria hreserved hvalue
    have hvalues : ∀ key, Criterion.valuesOf key arguments.criteria =
        Criterion.valuesOf key (before ++ after) := fun key =>
      hcriteria ▸ Criterion.valuesOf_append_cons key before after hvalue
    refine ofRequest_request_congr ?_ ?_ ?_
    · exact congrArg (arguments.names ++ ·) (hvalues nameKey)
    · exact congrArg (arguments.tags ++ ·) (hvalues tagKey)
    · simp [hcriteria, hreserved]

/-- Reserved keys in two spellings between criteria on properties, one of them without a value. -/
theorem ofRequest_reservedAsOptions_mixed :
    let arguments : Arguments :=
      { names := ["A*"], criteria := [⟨"~NAME", some "B*"⟩, ⟨"elem", some "quad"⟩,
          ⟨"~Tag", some "Active"⟩, ⟨"~name", none⟩, ⟨"Elem", some "bpm"⟩] }
    let moved : Arguments :=
      { names := ["A*", "B*"], tags := ["Active"], criteria := [⟨"elem", some "quad"⟩,
          ⟨"~name", none⟩, ⟨"Elem", some "bpm"⟩] }
    arguments.reservedAsOptions = moved ∧
      Criteria.ofRequest arguments.request = Criteria.ofRequest moved.request ∧
      Criteria.ofRequest moved.request = Criteria.ofRequest { moved with
        criteria := [⟨"elem", some "quad"⟩, ⟨"Elem", some "bpm"⟩] }.request := by
  intro arguments moved
  have hmoved : arguments.reservedAsOptions = moved := by decide
  refine ⟨hmoved, hmoved ▸ (ofRequest_reservedAsOptions arguments).1, ?_⟩
  exact (ofRequest_reservedAsOptions moved).2 [⟨"elem", some "quad"⟩] [⟨"Elem", some "bpm"⟩]
    ⟨"~name", none⟩ rfl (Or.inl (by decide)) rfl

end Arguments
end CommandLine
end ChannelCatalog
