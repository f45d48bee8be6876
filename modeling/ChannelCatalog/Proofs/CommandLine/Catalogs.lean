import ChannelCatalog.CommandLine.Run
import ChannelCatalog.Proofs.Store.Searching

/-!
# Catalogs that runs search

A run finds its catalog among the files, or makes a new one.  If the catalogs among the files keep
the rules and hold texts, so does the one that is searched, and what is found in it is a listing.
-/

namespace ChannelCatalog

open Store

/-- All catalogs among the files keep the rules of the reference schema, and their cells hold texts
or nothing. -/
def Files.HoldValid (files : Files) : Prop :=
  ∀ place tables, files.find place = some (.catalog tables) → tables.Valid ∧ tables.IsTextual

/-! ## Finding a catalog -/

namespace Catalog

/-- The file of a catalog is one of the files, or it is new and empty. -/
theorem file_of_findInFiles {files after : Files} {path : String} {location : Location}
    {access : Access} {catalog : Catalog}
    (h : findInFiles files path location access = .ok (catalog, after)) :
    catalog.file = .text "" ∨ ∃ place, files.find place = some catalog.file := by
  unfold findInFiles at h
  split at h
  · rename_i place hplace
    simp only [bind, Except.bind, pure, Except.pure, throw, throwThe, MonadExceptOf.throw] at h
    split at h
    on_goal 1 => split at h
    on_goal 1 => cases h
    -- A file for permissions can only stand against the catalog, so two alike cases are left.
    all_goals
      split at h
      · cases h
      · rename_i hfile
        cases h
        exact Or.inr ⟨place, hfile⟩
      · split_ifs at h
        cases h
        exact Or.inl rfl
  · cases h

theorem file_of_find {files after : Files} {path : String} {access : Access} {catalog : Catalog}
    (h : find files path access = .ok (catalog, after)) :
    catalog.file = .text "" ∨ ∃ place, files.find place = some catalog.file := by
  obtain ⟨location, -, h⟩ := bind_eq_ok_iff.1 h
  obtain ⟨⟨access, keeping⟩, -, h⟩ := bind_eq_ok_iff.1 h
  dsimp only at h
  split at h
  · cases h
    exact Or.inl rfl
  · cases keeping with
    | inFile => exact file_of_findInFiles h
    | inMemory =>
        dsimp only at h
        split at h
        · cases h
        · cases h
          exact Or.inl rfl

/-- What a store finds in the file of a catalog keeps the rules if the files do. -/
theorem valid_of_find {files after : Files} (hfiles : files.HoldValid) {path : String}
    {access : Access} {catalog : Catalog} (h : find files path access = .ok (catalog, after))
    {tables : Tables} (htables : catalog.file.tables = .ok (some tables)) :
    tables.Valid ∧ tables.IsTextual := by
  rcases file_of_find h with hnew | ⟨place, hplace⟩
  · rw [hnew] at htables
    cases htables
  · cases hfile : catalog.file with
    | catalog found =>
        rw [hfile] at htables hplace
        cases htables
        exact hfiles place tables hplace
    | text content =>
        rw [hfile, File.tables] at htables
        split at htables <;> cases htables
    | binary =>
        rw [hfile] at htables
        cases htables
    | directory =>
        rw [hfile] at htables
        cases htables

end Catalog

/-! ## Opening a catalog -/

/-- The tables of a store keep the rules, if there are any. -/
def Connection.IsValid : Connection → Prop
  | .store state => ∀ tables, state.tables = some tables → tables.Valid ∧ tables.IsTextual
  | .notADatabase => True

namespace Connection

theorem isTextual_empty : (Tables.empty .reference).IsTextual :=
  ⟨List.forall_mem_nil _, List.forall_mem_nil _⟩

theorem isValid_toTables {found : Option Tables}
    (h : ∀ tables, found = some tables → tables.Valid ∧ tables.IsTextual) :
    (toTables found).IsValid :=
  h

theorem isValid_new : (toTables (some (.empty .reference))).IsValid := by
  rintro _ ⟨⟩
  exact ⟨Tables.valid_empty, isTextual_empty⟩

/-- A run is connected to a store that keeps the rules, or to none. -/
theorem isValid_of_ofConfig {files after : Files} (hfiles : files.HoldValid) {config : Config}
    {connection : Connection} (h : ofConfig files config = (.ok connection, after)) :
    connection.IsValid := by
  unfold ofConfig at h
  split at h
  · cases h
    exact isValid_new
  · split at h
    · cases h
    · rename_i catalog found hfind
      have hvalid : ∀ tables, catalog.file.tables = .ok (some tables) →
          tables.Valid ∧ tables.IsTextual := fun _ => Catalog.valid_of_find hfiles hfind
      split at h
      · cases h
        unfold toFile
        split
        · rename_i tables htables
          exact isValid_toTables fun _ hsome => hvalid _ (hsome ▸ htables)
        · trivial
      · unfold withTables at h
        split at h
        · cases h
        · rename_i tables htables
          cases h
          rintro _ ⟨⟩
          exact hvalid tables htables
        · split_ifs at h <;> cases h
          exact isValid_new

end Connection

/-! ## Searching it -/

/-- A search always asks for something, so it fails where nothing is answered. -/
theorem Criteria.search_ne_ok {ε : Type} {executor : Executor Id ε}
    (hids : ∀ query answer, executor.fetchIds query ≠ .ok answer)
    (hrows : ∀ query rows, executor.fetchRows query ≠ .ok rows) (criteria : Criteria)
    (outcome : Outcome) : criteria.search executor ≠ .ok outcome := by
  intro h
  rcases Criteria.search_eq_ok_iff.1 h with ⟨hresolve, -⟩ | ⟨ids, rows, -, hfound, -⟩
  · rw [Criteria.resolve] at hresolve
    cases hqueries : criteria.idQueries with
    | nil =>
        rw [hqueries] at hresolve
        cases hresolve
    | cons query rest =>
        rw [hqueries, resolveFrom] at hresolve
        simp only [bind] at hresolve
        cases hanswer : executor.fetchIds query with
        | error cause =>
            rw [hanswer] at hresolve
            cases hresolve
        | ok answer => exact hids query answer hanswer
  · exact hrows _ rows hfound

theorem Store.State.exists_tables_of_search {state : State} {criteria : Criteria}
    {outcome : Outcome} (h : state.search criteria = .ok outcome) :
    ∃ tables, state.tables = some tables := by
  refine Option.ne_none_iff_exists'.1 fun hnone => ?_
  have htables : ∀ table tables, state.tablesFor table ≠ .ok tables := by
    intro table tables hfound
    rw [State.tablesFor, hnone] at hfound
    cases hfound
  refine Criteria.search_ne_ok (fun query answer hanswer => ?_) (fun query rows hrows => ?_)
    criteria outcome h
  · obtain ⟨accepted, -, hanswer⟩ := bind_eq_ok_iff.1 hanswer
    obtain ⟨tables, hfound, -⟩ := bind_eq_ok_iff.1 hanswer
    exact htables _ tables hfound
  · obtain ⟨depth, -, hrows⟩ := bind_eq_ok_iff.1 hrows
    obtain ⟨tables, hfound, -⟩ := bind_eq_ok_iff.1 hrows
    exact htables _ tables hfound

/-- What a search finds on a connection is a listing of tables that keep the rules. -/
theorem Connection.IsValid.exists_lists {connection : Connection} (hvalid : connection.IsValid)
    {criteria : Criteria} {outcome : Outcome} (h : connection.search criteria = .ok outcome) :
    ∃ (tables : Tables) (wanted : ChannelRecord → Prop),
      tables.Valid ∧ tables.Lists wanted outcome.toRows := by
  cases connection with
  | notADatabase =>
      refine absurd h (Criteria.search_ne_ok ?_ ?_ criteria outcome)
      · rintro query answer ⟨⟩
      · rintro query rows ⟨⟩
  | store state =>
      obtain ⟨tables, htables⟩ := State.exists_tables_of_search h
      obtain ⟨hrules, htextual⟩ := hvalid tables htables
      exact ⟨tables, _, hrules, (State.answers_of_search htables hrules htextual h).lists_toRows⟩

end ChannelCatalog
