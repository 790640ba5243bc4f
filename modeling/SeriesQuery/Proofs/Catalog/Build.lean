import SeriesQuery.Catalog.Build
import SeriesQuery.Proofs.Catalog.Expansion
import SeriesQuery.Proofs.Dict
import SeriesQuery.Proofs.Store.History
import SeriesQuery.Proofs.Text.Order

/-!
# Catalogs over the store in memory

A catalog is built exactly if the store has all collections that its targets read, and otherwise the
first one that is missing is the error. The collection of a target is fixed when the catalog is made
and a store keeps its collections, so what was checked once holds from then on: `build_lasts`.
-/

namespace SeriesQuery.Catalog

open MemoryStore (Call after operations)

/-- The store has every collection that a target reads. -/
def HasCollections (c : Catalog) (s : MemoryStore) : Prop :=
  ∀ d ∈ c.definitions, s.Has d.collection

/-- A collection is read and missing, and no other one of these comes before it by its bytes. -/
structure IsFirstMissing (c : Catalog) (s : MemoryStore) (name : String) : Prop where
  read : ∃ d ∈ c.definitions, d.collection = name
  missing : ¬ s.Has name
  smallest : ∀ d ∈ c.definitions, ¬ s.Has d.collection →
    Text.bytes name ≤ Text.bytes d.collection

/-- What holds of a catalog and the store it was built over, once there were calls and then some
more. -/
structure Lasts (c : Catalog) (built : MemoryStore) (calls later : List Call) : Prop where
  /-- Every collection is still there, with its documents of then at the start. -/
  grows : (after calls built).Grows (after (calls ++ later) built)
  /-- Documents that are refused change nothing. -/
  insertMany_error : ∀ name docs e,
    (MemoryStore.insertMany name docs (after calls built)).1 = .error e →
      (MemoryStore.insertMany name docs (after calls built)).2 = after calls built
  /-- A document that is refused changes nothing. -/
  insert_error : ∀ name doc e,
    (MemoryStore.insert name doc (after calls built)).1 = .error e →
      (MemoryStore.insert name doc (after calls built)).2 = after calls built
  /-- A collection that is there is not created anew. -/
  create_again : ∀ name, (after calls built).Has name →
    (after calls built).create name = after calls built
  /-- No query over the catalog misses a collection. -/
  query_finds : ∀ (r : Runner) (params : QueryParams) (name : String), r.catalog = c →
    (r.query operations params (after calls built)).1 ≠
      .error (.store (.unknownCollection name))

variable {c : Catalog} {s : MemoryStore}

/-- Collections that are read are asked for. -/
theorem mem_collections {name : String} :
    name ∈ c.collections ↔ ∃ d ∈ c.definitions, d.collection = name := by
  rw [collections, Dict.mem_keys_ofList, List.map_map]
  exact List.mem_map

/-- The check ends at the first name that the store does not have. -/
theorem checkCollections_eq (names : List String) (s : MemoryStore) :
    checkCollections operations names s =
      match names.find? fun name => !Dict.contains s.collections name with
      | none => (.ok (), s)
      | some name => (.error (.unknownCollection name), s) := by
  induction names with
  | nil => rfl
  | cons name names ih =>
      have hasked : ((operations.hasCollection name).mapError CatalogError.store) s =
          (.ok (Dict.contains s.collections name), s) := rfl
      rw [checkCollections, Effect.bind_ok hasked, List.find?_cons]
      cases Dict.contains s.collections name with
      | true => exact ih
      | false => rfl

/-- Nothing is missing if the store has all collections. -/
theorem find?_eq_none_iff :
    (c.collections.find? fun name => !Dict.contains s.collections name) = none ↔
      c.HasCollections s := by
  simp only [List.find?_eq_none, mem_collections, HasCollections, MemoryStore.has_iff,
    Bool.not_eq_true', Bool.not_eq_false]
  constructor
  · exact fun h d hd => h _ ⟨d, hd, rfl⟩
  · rintro h _ ⟨d, hd, rfl⟩
    exact h d hd

/-- The first name that is missing is the smallest one. -/
theorem isFirstMissing_of_find? {name : String}
    (h : (c.collections.find? fun name => !Dict.contains s.collections name) = some name) :
    c.IsFirstMissing s name := by
  obtain ⟨hmissing, found, rest, hsplit, hfound⟩ := List.find?_eq_some_iff_append.1 h
  have hordered : (found ++ name :: rest).Pairwise (· < ·) := hsplit ▸ Dict.ordered_ofList _
  refine ⟨mem_collections.1 (hsplit ▸ by simp), ?_, fun d hd hd' => ?_⟩
  · rw [MemoryStore.has_iff]
    simpa using hmissing
  · have hmem : d.collection ∈ found ++ name :: rest := hsplit ▸ mem_collections.2 ⟨d, hd, rfl⟩
    rw [Text.bytes_le_iff]
    rcases List.mem_append.1 hmem with hmem | hmem
    · -- the names before it are there
      refine absurd (MemoryStore.has_iff.2 ?_) hd'
      simpa using hfound _ hmem
    · rcases List.mem_cons.1 hmem with heq | hmem
      · exact heq.ge
      · exact ((List.pairwise_cons.1 (List.pairwise_append.1 hordered).2.1).1 _ hmem).le

section Build

variable {d : Datasource} (s : MemoryStore)

/-- Settings that stand for no catalog are the error. -/
theorem build_of_error {e : CatalogError} (h : expand d = .error e) :
    build d operations s = (.error e, s) := by
  rw [build, h]
  rfl

/-- Once the settings are expanded, the collections are asked for. -/
theorem build_of_expand (h : expand d = .ok c) :
    build d operations s = (do checkCollections operations c.collections; return c) s := by
  rw [build, h, Effect.ofExcept_ok, pure_bind]

/-- Where the store has all collections, there is a catalog. -/
theorem build_of_has (h : expand d = .ok c) (hhas : c.HasCollections s) :
    build d operations s = (.ok c, s) := by
  have hcheck : checkCollections operations c.collections s = (.ok (), s) := by
    rw [checkCollections_eq, find?_eq_none_iff.2 hhas]
  rw [build_of_expand s h, Effect.bind_ok hcheck]
  rfl

/-- Where collections are missing, the smallest of them is the error. -/
theorem build_of_not_has (h : expand d = .ok c) (hhas : ¬ c.HasCollections s) :
    ∃ name, c.IsFirstMissing s name ∧
      build d operations s = (.error (.unknownCollection name), s) := by
  cases hfind : c.collections.find? fun name => !Dict.contains s.collections name with
  | none => exact absurd (find?_eq_none_iff.1 hfind) hhas
  | some name =>
      have hcheck : checkCollections operations c.collections s =
          (.error (.unknownCollection name), s) := by
        rw [checkCollections_eq, hfind]
      exact ⟨name, isFirstMissing_of_find? hfind, by
        rw [build_of_expand s h, Effect.bind_error hcheck]⟩

end Build

/-- A catalog is built exactly if its settings stand for one and the store has all collections that
it reads; if some are missing, the smallest of them is the error. The store stays as it is, and from
then on, whatever calls there are, it keeps its collections and documents and no query over the
catalog misses a collection. -/
theorem build_lasts (d : Datasource) (s : MemoryStore) :
    (build d operations s).2 = s ∧
    (∀ c, (build d operations s).1 = .ok c ↔ expand d = .ok c ∧ c.HasCollections s) ∧
    (∀ c, expand d = .ok c → ¬ c.HasCollections s → ∃ name, c.IsFirstMissing s name ∧
      (build d operations s).1 = .error (.unknownCollection name)) ∧
    (∀ c, (build d operations s).1 = .ok c → ∀ calls later, c.Lasts s calls later) := by
  have hstate : (build d operations s).2 = s := by
    cases hexpand : expand d with
    | error e => rw [build_of_error s hexpand]
    | ok c =>
        by_cases hhas : c.HasCollections s
        · rw [build_of_has s hexpand hhas]
        · obtain ⟨name, -, hbuild⟩ := build_of_not_has s hexpand hhas
          rw [hbuild]
  have hok : ∀ c, (build d operations s).1 = .ok c ↔ expand d = .ok c ∧ c.HasCollections s := by
    refine fun c => ⟨fun hbuild => ?_, fun ⟨hexpand, hhas⟩ => by rw [build_of_has s hexpand hhas]⟩
    cases hexpand : expand d with
    | error e =>
        rw [build_of_error s hexpand] at hbuild
        cases hbuild
    | ok c' =>
        by_cases hhas : c'.HasCollections s
        · rw [build_of_has s hexpand hhas] at hbuild
          cases hbuild
          exact ⟨rfl, hhas⟩
        · obtain ⟨name, -, hfail⟩ := build_of_not_has s hexpand hhas
          rw [hfail] at hbuild
          cases hbuild
  refine ⟨hstate, hok, fun c hexpand hhas => ?_, fun c hbuild calls later => ?_⟩
  · obtain ⟨name, hfirst, hfail⟩ := build_of_not_has s hexpand hhas
    exact ⟨name, hfirst, congrArg Prod.fst hfail⟩
  · -- what the store had when the catalog was built it has after all calls
    have hnow : c.HasCollections (after calls s) := fun d hd =>
      (MemoryStore.grows_after calls s).has (((hok c).1 hbuild).2 d hd)
    refine ⟨?_, fun name docs e => MemoryStore.insertMany_error,
      fun name doc e => MemoryStore.insert_error, fun name => MemoryStore.create_of_has, ?_⟩
    · rw [MemoryStore.after_append]
      exact MemoryStore.grows_after later _
    · rintro r params name rfl
      exact MemoryStore.query_of_has r params hnow name

/-- The paired settings stand for a catalog over two collections. -/
theorem expand_pairedSettings : ∃ c, expand pairedSettings = .ok c ∧
    c.definitions.map Definition.collection = ["a", "a", "b", "b"] := by
  have htemplates : CatalogTemplates.ofDatasource pairedSettings = .ok pairedTemplates := by
    decide +kernel
  have haggregations : Aggregation.resolve pairedSettings.aggregation = .ok [.average, .max] := by
    decide +kernel
  have hnames : (((combinations pairedSettings pairedTemplates [.average, .max]).map fun k =>
      definitionFor pairedSettings k pairedTemplates).map Definition.name).Nodup := by decide
  obtain ⟨c, hc, hdefinitions⟩ := foldlM_insert_ok hnames
  refine ⟨c, (expand_eq _ htemplates haggregations (by decide)).trans hc, ?_⟩
  rw [hdefinitions]
  decide

/-- A store with both collections. -/
def pairedStore : MemoryStore := ⟨[("a", [.null]), ("b", [])], []⟩

/-- With both collections the catalog is built, and what is inserted stays and is found; without the
second one that is the error. -/
theorem build_lasts_paired :
    (∃ c, (build pairedSettings operations pairedStore).1 = .ok c ∧
      (∀ later, ∃ now, Dict.get? (after ([.insert "a" (.int 1), .insert "x" .null, .create "a"] ++
        later) pairedStore).collections "a" = some now ∧ [.null, .int 1] <+: now) ∧
      ∀ (r : Runner) (params : QueryParams), r.catalog = c →
        (r.query operations params (after [.insert "a" (.int 1)] pairedStore)).1 ≠
          .error (.store (.unknownCollection "a"))) ∧
    (build pairedSettings operations ⟨[("a", [])], []⟩).1 = .error (.unknownCollection "b") := by
  obtain ⟨c, hexpand, hcollections⟩ := expand_pairedSettings
  have hread (name : String) :
      (∃ d ∈ c.definitions, d.collection = name) ↔ name = "a" ∨ name = "b" := by
    rw [← List.mem_map, hcollections]
    simp
  constructor
  · obtain ⟨-, hok, -, hlasts⟩ := build_lasts pairedSettings pairedStore
    have hhas : c.HasCollections pairedStore := by
      intro d hd
      rcases (hread d.collection).1 ⟨d, hd, rfl⟩ with h | h <;> rw [h] <;> exact ⟨_, rfl⟩
    have hbuild := (hok c).2 ⟨hexpand, hhas⟩
    refine ⟨c, hbuild, fun later => ?_, fun r params h => ?_⟩
    · exact (hlasts c hbuild [.insert "a" (.int 1), .insert "x" .null, .create "a"] later).grows
        "a" [.null, .int 1] rfl
    · exact (hlasts c hbuild [.insert "a" (.int 1)] []).query_finds r params "a" h
  · obtain ⟨-, -, hfail, -⟩ := build_lasts pairedSettings ⟨[("a", [])], []⟩
    have hmissing : ¬ c.HasCollections ⟨[("a", [])], []⟩ := by
      intro hhas
      obtain ⟨d, hd, hb⟩ := (hread "b").2 (.inr rfl)
      obtain ⟨docs, hdocs⟩ := hhas d hd
      rw [hb] at hdocs
      cases hdocs
    obtain ⟨name, ⟨hname, hnone, -⟩, hbuild⟩ := hfail c hexpand hmissing
    rcases (hread name).1 hname with rfl | rfl
    · exact absurd ⟨[], rfl⟩ hnone
    · exact hbuild

end SeriesQuery.Catalog
