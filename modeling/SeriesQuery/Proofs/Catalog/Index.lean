import Mathlib.Data.List.Induction
import Mathlib.Data.List.Nodup
import SeriesQuery.Catalog

/-!
# The index of a catalog

The index of a catalog has the position of every name, so names differ and a target is found by its
name alone. Adding targets one after the other gives a catalog with all of them, or stops at the
first name that is taken.
-/

namespace SeriesQuery.Catalog

variable {c : Catalog} {name : String} {i : Nat}

/-- The name at a position is that of the target there. -/
theorem getElem?_names (c : Catalog) (i : Nat) :
    c.names[i]? = c.targets[i]?.map Definition.name := by
  rw [names, definitions, List.getElem?_map, Array.getElem?_toList]

/-- The index has the positions of names. -/
theorem index_eq_some_iff : Dict.get? c.index name = some i ↔ c.names[i]? = some name := by
  rw [c.inStep, getElem?_names]

/-- The index lacks the names that no target has. -/
theorem index_eq_none_iff : Dict.get? c.index name = none ↔ name ∉ c.names := by
  rw [Option.eq_none_iff_forall_ne_some, List.mem_iff_getElem?, not_exists]
  exact forall_congr' fun i => not_congr index_eq_some_iff

/-- A target is found by its name. -/
theorem get?_of_names (h : c.names[i]? = some name) : c.get? name = c.definitions[i]? := by
  rw [get?, index_eq_some_iff.2 h, Option.bind_some, definitions, Array.getElem?_toList]

/-- Nothing is found by a name that no target has. -/
theorem get?_eq_none (h : name ∉ c.names) : c.get? name = none := by
  rw [get?, index_eq_none_iff.2 h, Option.bind_none]

/-- What is found is one of the targets. -/
theorem mem_definitions_of_get? {d : Definition} (h : c.get? name = some d) :
    d ∈ c.definitions := by
  obtain ⟨i, _, hi⟩ := Option.bind_eq_some_iff.1 h
  exact Array.mem_toList_iff.2 (Array.mem_of_getElem? hi)

/-- A target whose name is new comes last. -/
theorem insert_new {d : Definition} (h : d.name ∉ c.names) :
    ∃ after, c.insert d = .ok after ∧ after.definitions = c.definitions ++ [d] := by
  have hnone := index_eq_none_iff.2 h
  refine ⟨c.push d hnone, ?_, Array.toList_push⟩
  rw [insert]
  split
  · next found =>
      rw [hnone] at found
      cases found
  · rfl

/-- A target whose name is taken is an error. -/
theorem insert_taken {d : Definition} (h : d.name ∈ c.names) :
    c.insert d = .error (.duplicateTarget d.name) := by
  rw [insert]
  split
  · rfl
  · next hnone => exact absurd h (index_eq_none_iff.1 hnone)

/-- Targets with new names come last, in order. -/
theorem foldlM_insert_new {ds : List Definition}
    (h : (c.names ++ ds.map Definition.name).Nodup) :
    ∃ after, ds.foldlM insert c = .ok after ∧ after.definitions = c.definitions ++ ds := by
  induction ds generalizing c with
  | nil => exact ⟨c, rfl, (List.append_nil _).symm⟩
  | cons d ds ih =>
      have hnew : d.name ∉ c.names := fun hmem =>
        (List.disjoint_of_nodup_append h) hmem List.mem_cons_self
      obtain ⟨middle, hinsert, hmiddle⟩ := insert_new hnew
      have hnames : middle.names = c.names ++ [d.name] := by
        rw [names, hmiddle, List.map_append]
        rfl
      obtain ⟨after, hafter, hdefinitions⟩ := ih (c := middle) (by simpa [hnames] using h)
      refine ⟨after, ?_, ?_⟩
      · rw [List.foldlM_cons, hinsert]
        exact hafter
      · rw [hdefinitions, hmiddle, List.append_assoc]
        rfl

/-- The first target whose name is taken by then is the error. -/
theorem foldlM_insert_taken {before : List Definition} {d : Definition}
    (hnew : (c.names ++ before.map Definition.name).Nodup)
    (htaken : d.name ∈ c.names ++ before.map Definition.name) (later : List Definition) :
    (before ++ d :: later).foldlM insert c = .error (.duplicateTarget d.name) := by
  obtain ⟨middle, hbefore, hmiddle⟩ := foldlM_insert_new hnew
  have hnames : middle.names = c.names ++ before.map Definition.name := by
    rw [names, hmiddle, List.map_append]
    rfl
  rw [List.foldlM_append, hbefore]
  change (d :: later).foldlM insert middle = _
  rw [List.foldlM_cons, insert_taken (hnames ▸ htaken)]
  rfl

/-- A list whose items do not all differ has a first item that occurred before. -/
theorem exists_first_repeated {α : Type} {l : List α} (h : ¬ l.Nodup) :
    ∃ before a later, l = before ++ a :: later ∧ before.Nodup ∧ a ∈ before := by
  induction l using List.reverseRecOn with
  | nil => exact absurd List.nodup_nil h
  | append_singleton before a ih =>
      by_cases hbefore : before.Nodup
      · refine ⟨before, a, [], rfl, hbefore, ?_⟩
        by_contra ha
        refine h (List.nodup_append.2 ⟨hbefore, List.nodup_singleton a, ?_⟩)
        rintro b hb _ hmem rfl
        exact ha (List.mem_singleton.1 hmem ▸ hb)
      · obtain ⟨first, b, later, rfl, hfirst, hb⟩ := ih hbefore
        exact ⟨first, b, later ++ [a], by simp, hfirst, hb⟩

/-- Targets with different names make a catalog. -/
theorem foldlM_insert_ok {ds : List Definition} (h : (ds.map Definition.name).Nodup) :
    ∃ c, ds.foldlM insert empty = .ok c ∧ c.definitions = ds := by
  obtain ⟨c, hc, hdefinitions⟩ := foldlM_insert_new (c := empty) h
  exact ⟨c, hc, hdefinitions⟩

/-- Of targets whose names do not all differ, the first name that occurred before is the error. -/
theorem foldlM_insert_error {ds : List Definition} (h : ¬ (ds.map Definition.name).Nodup) :
    ∃ before name later, ds.map Definition.name = before ++ name :: later ∧ before.Nodup ∧
      name ∈ before ∧ ds.foldlM insert empty = .error (.duplicateTarget name) := by
  obtain ⟨before, name, later, hnames, hnodup, hmem⟩ := exists_first_repeated h
  obtain ⟨first, rest, rfl, rfl, hrest⟩ := List.map_eq_append_iff.1 hnames
  obtain ⟨d, last, rfl, rfl, -⟩ := List.map_eq_cons_iff.1 hrest
  exact ⟨_, _, _, hnames, hnodup, hmem, foldlM_insert_taken (c := empty) hnodup hmem last⟩

end SeriesQuery.Catalog
