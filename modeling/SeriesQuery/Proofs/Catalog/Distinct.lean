import SeriesQuery.Catalog.Aggregation
import SeriesQuery.Proofs.Json.Order

/-!
# Values without repetitions

Repetitions are found by plain equality, and the values that are left may be sorted by the order of
values. `sortedUnique_arranges` says that this gives each value once, in ascending order. Different
values may tie in the order, so the result depends on the order in which the values came; but not
beyond ties (`sameUpToTies_ascending`).
-/

namespace SeriesQuery

open Json

section Lists

variable {α β : Type}

/-- A relation of two lists place by place, weakened for the elements that they have. -/
theorem forall₂_imp_of_mem {R S : α → β → Prop} {l : List α} {l' : List β}
    (h : List.Forall₂ R l l') (himp : ∀ a ∈ l, ∀ b ∈ l', R a b → S a b) : List.Forall₂ S l l' := by
  obtain ⟨hlength, hall⟩ := List.forall₂_iff_zip.1 h
  refine List.forall₂_iff_zip.2 ⟨hlength, ?_⟩
  intro a b hab
  obtain ⟨ha, hb⟩ := List.of_mem_zip hab
  exact himp a ha b hb (hall hab)

/-- Lists whose images are rearranged are rearranged up to their images. -/
theorem exists_perm_map_eq {f : α → β} {l l' : List α}
    (h : (l.map f).Perm (l'.map f)) : ∃ r, l.Perm r ∧ r.map f = l'.map f := by
  have hcomp : Relation.Comp (List.Forall₂ fun a b => f a = b) List.Perm l (l'.map f) :=
    ⟨l.map f, List.forall₂_map_right_iff.2 (List.forall₂_same.2 fun _ _ => rfl), h⟩
  rw [List.forall₂_comp_perm_eq_perm_comp_forall₂] at hcomp
  obtain ⟨r, hperm, hmap⟩ := hcomp
  refine ⟨r, hperm, ?_⟩
  rw [← List.forall₂_eq_eq_eq, List.forall₂_map_left_iff]
  exact hmap

end Lists

namespace Aggregation

variable {kept values later : List Json} {v : Json}

/-- A value occurs in a list exactly if one of the list is the same as it. -/
theorem occurs_iff (hv : v.Finite) : occurs kept v = true ↔ same v ∈ kept.map same := by
  rw [occurs, List.any_eq_true, List.mem_map]
  exact exists_congr fun u => and_congr_right fun _ => (same_eq_iff hv).symm

/-- What is kept of some values if repetitions are left out. -/
structure Kept (kept values : List Json) : Prop where
  /-- Nothing is kept twice. -/
  nodup : (kept.map same).Nodup
  /-- For each value one that is the same is kept. -/
  mem : ∀ v ∈ values, same v ∈ kept.map same
  /-- Only values are kept. -/
  subset : ∀ v ∈ kept, v ∈ values

/-- Of no values none is kept. -/
theorem Kept.empty : Kept [] [] := ⟨List.nodup_nil, nofun, nofun⟩

/-- One more value is kept unless it occurs already. -/
theorem Kept.add (h : Kept kept values) (hv : v.Finite) :
    Kept (if occurs kept v then kept else kept ++ [v]) (values ++ [v]) := by
  by_cases hoccurs : occurs kept v = true
  · rw [if_pos hoccurs]
    refine ⟨h.nodup, ?_, fun u hu => List.mem_append_left _ (h.subset u hu)⟩
    intro u hu
    rcases List.mem_append.1 hu with hu | hu
    · exact h.mem u hu
    · rw [List.mem_singleton.1 hu]
      exact (occurs_iff hv).1 hoccurs
  · rw [if_neg hoccurs]
    have hnew : same v ∉ kept.map same := mt (occurs_iff hv).2 hoccurs
    refine ⟨?_, ?_, ?_⟩
    · rw [List.map_append]
      exact List.concat_eq_append ▸ h.nodup.concat hnew
    · intro u hu
      rw [List.map_append]
      rcases List.mem_append.1 hu with hu | hu
      · exact List.mem_append_left _ (h.mem u hu)
      · exact List.mem_append_right _ (List.mem_map_of_mem hu)
    · intro u hu
      rcases List.mem_append.1 hu with hu | hu
      · exact List.mem_append_left _ (h.subset u hu)
      · exact List.mem_append_right _ hu

/-- What is kept as more values come. -/
theorem Kept.foldl (h : Kept kept values) (hlater : ∀ v ∈ later, v.Finite) :
    Kept (later.foldl (fun seen v => if occurs seen v then seen else seen ++ [v]) kept)
      (values ++ later) := by
  induction later generalizing kept values with
  | nil =>
      rw [List.append_nil]
      exact h
  | cons v later ih =>
      obtain ⟨hv, hlater⟩ := List.forall_mem_cons.1 hlater
      have hnext := ih (h.add hv) hlater
      rw [List.append_assoc] at hnext
      exact hnext

/-- Leaving out repetitions keeps each value once. -/
theorem kept_distinct (h : ∀ v ∈ values, v.Finite) : Kept (distinct values) values :=
  Kept.empty.foldl h

/-- The kept values are those of the list, up to plain equality. -/
theorem Kept.mem_map_same (h : Kept kept values) (c : Json → Bool) :
    c ∈ kept.map same ↔ c ∈ values.map same := by
  constructor
  · intro hc
    obtain ⟨v, hv, rfl⟩ := List.mem_map.1 hc
    exact List.mem_map_of_mem (h.subset v hv)
  · intro hc
    obtain ⟨v, hv, rfl⟩ := List.mem_map.1 hc
    exact h.mem v hv

/-- A value is kept exactly once, up to plain equality. -/
theorem Kept.countP_same (h : Kept kept values) (hfinite : ∀ v ∈ values, v.Finite)
    (hv : v ∈ values) : kept.countP (same v) = 1 := by
  classical
  have hcount : (kept.map same).count (same v) = kept.countP (same v) := by
    rw [List.count, List.countP_map]
    refine List.countP_congr ?_
    intro u hu
    show (same u == same v) = true ↔ same v u = true
    rw [beq_iff_eq, eq_comm, same_eq_iff (hfinite u (h.subset u hu))]
  rw [← hcount]
  exact List.count_eq_one_of_mem h.nodup (h.mem v hv)

/-! ### In ascending order -/

/-- The values without repetitions, in ascending order. -/
def ascending (values : List Json) : List Json := (distinct values).mergeSort Json.le

/-- A list has each of some values once, in ascending order. -/
structure Arranges (items values : List Json) : Prop where
  /-- Each value occurs once, up to plain equality. -/
  once : ∀ v ∈ values, items.countP (same v) = 1
  /-- No other values occur. -/
  only : ∀ v ∈ items, v ∈ values
  /-- No value is above a later one. -/
  ordered : items.Pairwise fun v w => order v w ≠ .gt

/-- Sorting adds and drops nothing. -/
theorem ascending_perm (values : List Json) : (ascending values).Perm (distinct values) :=
  List.mergeSort_perm _ _

section Finite

variable (hfinite : ∀ v ∈ values, v.Finite)

include hfinite

/-- Only values of the list are sorted. -/
theorem mem_of_mem_ascending (hv : v ∈ ascending values) : v ∈ values :=
  (kept_distinct hfinite).subset v ((ascending_perm values).mem_iff.1 hv)

/-- Sorted values are finite. -/
theorem finite_ascending : ∀ v ∈ ascending values, v.Finite := by
  intro v hv
  exact hfinite v (mem_of_mem_ascending hfinite hv)

/-- The keys of sorted values do not decrease. -/
theorem pairwise_ascending : (ascending values).Pairwise fun v w => v.sortKey ≤ w.sortKey := by
  have hdistinct : ∀ v ∈ distinct values, v.Finite := by
    intro v hv
    exact hfinite v ((kept_distinct hfinite).subset v hv)
  have hsort : ascending values =
      (distinct values).mergeSort fun v w => decide (v.sortKey ≤ w.sortKey) :=
    Binary64.mergeSort_congr fun v hv w hw => le_eq_decide (hdistinct v hv) (hdistinct w hw)
  rw [hsort]
  have hpairwise := List.pairwise_mergeSort (Binary64.decide_key_trans sortKey)
    (Binary64.decide_key_total sortKey) (distinct values)
  exact hpairwise.imp of_decide_eq_true

/-- The values without repetitions in ascending order are an arrangement of the values. -/
theorem arranges_ascending : Arranges (ascending values) values where
  once v hv := by
    rw [(ascending_perm values).countP_eq]
    exact (kept_distinct hfinite).countP_same hfinite hv
  only v hv := mem_of_mem_ascending hfinite hv
  ordered := by
    refine (pairwise_ascending hfinite).imp_of_mem ?_
    intro v w hv hw hvw
    rw [order_eq_compare (finite_ascending hfinite v hv) (finite_ascending hfinite w hw)]
    exact compare_le_iff_le.2 hvw

end Finite

/-- The order is a total preorder of the values of the data format, in which kinds come one after the
other, and the values without repetitions are sorted by it: each value occurs once up to plain
equality, no other value occurs, and none is above a later one. -/
theorem sortedUnique_arranges :
    (∀ a b c : Json, a.Finite → b.Finite → c.Finite →
      order a b = (order b a).swap ∧ order a a = .eq ∧
      (order a b ≠ .gt → order b c ≠ .gt → order a c ≠ .gt) ∧
      (a.rank < b.rank → order a b = .lt)) ∧
    ∀ values : List Json, (∀ v ∈ values, v.Finite) →
      ∃ items, apply .sortedUnique values = .arr items ∧ Arranges items values := by
  constructor
  · intro a b c ha hb hc
    exact ⟨order_swap ha hb, order_self ha, order_trans ha hb hc, order_of_rank_lt⟩
  · intro values hfinite
    exact ⟨ascending values, rfl, arranges_ascending hfinite⟩

/-- Values of all kinds, with a repetition and with ties. -/
def mixedValues : List Json :=
  [.str "b", .arr [.int 2], .num (.float (Float.ofBits 0x3FF0000000000000)), .str "a", .null,
    .str "b", .int 1, .obj [], .bool true, .arr [.int 1]]

/-- Values of all kinds are arranged; a double ties with its integer, and both are below a text. -/
theorem sortedUnique_arranges_mixed :
    (order (.num (.float (Float.ofBits 0x3FF0000000000000))) (.int 1) ≠ .gt ∧
      order (.int 1) (.str "a") ≠ .gt ∧
      order (.num (.float (Float.ofBits 0x3FF0000000000000))) (.str "a") ≠ .gt) ∧
    ∃ items, apply .sortedUnique mixedValues = .arr items ∧ Arranges items mixedValues := by
  have hone : (Json.num (.float (Float.ofBits 0x3FF0000000000000))).Finite := .num rfl
  have hint : ∀ z, (Json.int z).Finite := fun z => .num trivial
  have hitems : ∀ z, (Json.arr [.int z]).Finite := by
    intro z
    refine .arr ?_
    intro v hv
    rw [List.mem_singleton.1 hv]
    exact hint z
  have hfinite : ∀ v ∈ mixedValues, v.Finite := by
    intro v hv
    simp only [mixedValues, List.mem_cons, List.not_mem_nil, or_false] at hv
    rcases hv with rfl | rfl | rfl | rfl | rfl | rfl | rfl | rfl | rfl | rfl
    · exact .str "b"
    · exact hitems 2
    · exact hone
    · exact .str "a"
    · exact .null
    · exact .str "b"
    · exact hint 1
    · exact .obj nofun
    · exact .bool true
    · exact hitems 1
  have hle : order (.num (.float (Float.ofBits 0x3FF0000000000000))) (.int 1) ≠ .gt := by decide
  have hlt : order (.int 1) (.str "a") ≠ .gt := by decide
  obtain ⟨-, -, htrans, -⟩ := sortedUnique_arranges.1 _ _ _ hone (hint 1) (.str "a")
  exact ⟨⟨hle, hlt, htrans hle hlt⟩, sortedUnique_arranges.2 mixedValues hfinite⟩

/-! ### In another order -/

/-- Two lists have the same values up to plain equality, and tie place by place. -/
structure SameUpToTies (items others : List Json) : Prop where
  /-- Place by place the values tie. -/
  tied : List.Forall₂ (fun v w => order v w = .eq) items others
  /-- One list is the other one rearranged, up to plain equality. -/
  rearranged : ∃ reordered, items.Perm reordered ∧
    List.Forall₂ (fun v w => same v w = true) reordered others

/-- Lists that tie place by place are one list if values that tie are identical. -/
theorem SameUpToTies.eq {items others : List Json} (h : SameUpToTies items others)
    (hties : ∀ v ∈ items, ∀ w ∈ others, order v w = .eq → v = w) : items = others := by
  rw [← List.forall₂_eq_eq_eq]
  exact forall₂_imp_of_mem h.tied hties

/-- Values without repetitions are the same up to plain equality, in whatever order they come. -/
theorem map_same_distinct_perm {others : List Json} (hfinite : ∀ v ∈ values, v.Finite)
    (h : values.Perm others) :
    ((distinct values).map same).Perm ((distinct others).map same) := by
  have hkept := kept_distinct hfinite
  have hkept' := kept_distinct fun v hv => hfinite v (h.mem_iff.2 hv)
  rw [List.perm_ext_iff_of_nodup hkept.nodup hkept'.nodup]
  intro c
  rw [hkept.mem_map_same, hkept'.mem_map_same]
  exact (h.map same).mem_iff

/-- The values without repetitions in ascending order depend on the order in which they come in the
places of ties only. -/
theorem sameUpToTies_ascending {others : List Json} (hfinite : ∀ v ∈ values, v.Finite)
    (h : values.Perm others) : SameUpToTies (ascending values) (ascending others) := by
  have hfinite' : ∀ v ∈ others, v.Finite := fun v hv => hfinite v (h.mem_iff.2 hv)
  have hclasses : ((ascending values).map same).Perm ((ascending others).map same) :=
    ((ascending_perm values).map same).trans
      ((map_same_distinct_perm hfinite h).trans ((ascending_perm others).map same).symm)
  obtain ⟨reordered, hperm, hmap⟩ := exists_perm_map_eq hclasses
  have hsame : List.Forall₂ (fun v w => same v w = true) reordered (ascending others) := by
    rw [← List.forall₂_eq_eq_eq, List.forall₂_map_left_iff, List.forall₂_map_right_iff] at hmap
    exact forall₂_imp_of_mem hmap fun v _ w hw =>
      (same_eq_iff (finite_ascending hfinite' w hw)).1
  have hkeys : ((ascending values).map sortKey).Perm ((ascending others).map sortKey) := by
    have hreordered : reordered.map sortKey = (ascending others).map sortKey := by
      rw [← List.forall₂_eq_eq_eq, List.forall₂_map_left_iff, List.forall₂_map_right_iff]
      exact hsame.imp fun _ _ => sortKey_eq_of_same
    rw [← hreordered]
    exact hperm.map sortKey
  -- sorted lists of the same keys are one list
  have htied : (ascending values).map sortKey = (ascending others).map sortKey :=
    hkeys.eq_of_pairwise (fun _ _ _ _ => le_antisymm)
      (List.pairwise_map.2 (pairwise_ascending hfinite))
      (List.pairwise_map.2 (pairwise_ascending hfinite'))
  rw [← List.forall₂_eq_eq_eq, List.forall₂_map_left_iff, List.forall₂_map_right_iff] at htied
  exact ⟨forall₂_imp_of_mem htied fun v hv w hw =>
    (order_eq_iff_sortKey (finite_ascending hfinite v hv) (finite_ascending hfinite' w hw)).2,
    reordered, hperm, hsame⟩

end Aggregation

end SeriesQuery
