import SeriesQuery.Store.Memory

/-!
# Buckets of selected documents

The store adds the selected documents to their buckets one after the other. `Collects` is what holds
of the buckets after some of them: their starts ascend, a start is there exactly if one of the
documents has it, and a bucket holds the values of its documents in the order in which they came.
-/

namespace SeriesQuery.MemoryStore

/-- Buckets hold the values of some documents by their starts. -/
structure Collects (start : Selected → Int64) (selected : List Selected)
    (bs : List (Int64 × List Json)) : Prop where
  /-- Each bucket starts before the buckets that follow it. -/
  ascending : bs.Pairwise fun a b => a.1 < b.1
  /-- The starts of buckets are the starts of documents. -/
  mem_starts : ∀ s, s ∈ bs.map Prod.fst ↔ s ∈ selected.map start
  /-- A bucket holds the values of the documents that start with it, in order. -/
  values : ∀ b ∈ bs, b.2 = (selected.filter (start · = b.1)).map Selected.value

/-- Adding a value adds its start, if it is not there yet. -/
theorem mem_starts_addToBucket (start : Int64) (value : Json) (bs : List (Int64 × List Json))
    (s : Int64) :
    s ∈ (addToBucket start value bs).map Prod.fst ↔ s = start ∨ s ∈ bs.map Prod.fst := by
  induction bs with
  | nil => simp [addToBucket]
  | cons b rest ih =>
      obtain ⟨first, values⟩ := b
      unfold addToBucket
      by_cases heq : start = first
      · subst heq
        simp
      · rw [if_neg heq]
        by_cases hlt : start < first
        · simp [hlt]
        · rw [if_neg hlt, List.map_cons, List.mem_cons, ih, List.map_cons, List.mem_cons]
          exact or_left_comm

/-- Adding a value keeps the buckets in order. -/
theorem ascending_addToBucket (start : Int64) (value : Json) {bs : List (Int64 × List Json)}
    (h : bs.Pairwise fun a b => a.1 < b.1) :
    (addToBucket start value bs).Pairwise fun a b => a.1 < b.1 := by
  induction bs with
  | nil => exact List.pairwise_singleton _ _
  | cons b rest ih =>
      obtain ⟨first, values⟩ := b
      obtain ⟨hfirst, hrest⟩ := List.pairwise_cons.1 h
      unfold addToBucket
      by_cases heq : start = first
      · rw [if_pos heq]
        exact List.pairwise_cons.2 ⟨hfirst, hrest⟩
      · rw [if_neg heq]
        by_cases hlt : start < first
        · rw [if_pos hlt]
          refine List.pairwise_cons.2 ⟨?_, h⟩
          intro c hc
          rcases List.mem_cons.1 hc with rfl | hc
          · exact hlt
          · exact Int64.lt_trans hlt (hfirst c hc)
        · -- the new start comes after the first one, wherever it goes
          rw [if_neg hlt]
          refine List.pairwise_cons.2 ⟨?_, ih hrest⟩
          intro c hc
          have hmem : c.1 ∈ (addToBucket start value rest).map Prod.fst :=
            List.mem_map_of_mem hc
          rcases (mem_starts_addToBucket start value rest c.1).1 hmem with hstart | hold
          · rw [hstart]
            exact Int64.lt_of_le_of_ne (Int64.not_lt.1 hlt) (Ne.symm heq)
          · obtain ⟨old, hmemOld, hsame⟩ := List.mem_map.1 hold
            rw [← hsame]
            exact hfirst old hmemOld

/-- A start below the first one is the start of none of the buckets. -/
theorem not_mem_starts {start : Int64} {b : Int64 × List Json} {rest : List (Int64 × List Json)}
    (h : (b :: rest).Pairwise fun a b => a.1 < b.1) (hlt : start < b.1) :
    start ∉ (b :: rest).map Prod.fst := by
  intro hmem
  obtain ⟨c, hc, hsame⟩ := List.mem_map.1 hmem
  rw [← hsame] at hlt
  rcases List.mem_cons.1 hc with rfl | hc
  · exact Int64.lt_irrefl hlt
  · exact Int64.lt_irrefl (Int64.lt_trans hlt ((List.pairwise_cons.1 h).1 c hc))

/-- A bucket after a value was added is one of the others, or the bucket of the value with the value
at its end, or a new bucket with this value only. -/
theorem mem_addToBucket {start : Int64} {value : Json} {bs : List (Int64 × List Json)}
    (h : bs.Pairwise fun a b => a.1 < b.1) {b : Int64 × List Json}
    (hb : b ∈ addToBucket start value bs) :
    (b.1 ≠ start ∧ b ∈ bs) ∨ (∃ values, (start, values) ∈ bs ∧ b = (start, values ++ [value])) ∨
      (start ∉ bs.map Prod.fst ∧ b = (start, [value])) := by
  induction bs with
  | nil => exact .inr (.inr ⟨List.not_mem_nil, List.mem_singleton.1 hb⟩)
  | cons c rest ih =>
      obtain ⟨first, values⟩ := c
      obtain ⟨hfirst, hrest⟩ := List.pairwise_cons.1 h
      unfold addToBucket at hb
      by_cases heq : start = first
      · rw [if_pos heq] at hb
        subst heq
        rcases List.mem_cons.1 hb with rfl | hb
        · exact .inr (.inl ⟨values, List.mem_cons_self, rfl⟩)
        · refine .inl ⟨?_, List.mem_cons_of_mem _ hb⟩
          intro hsame
          exact Int64.lt_irrefl (hsame ▸ hfirst b hb)
      · rw [if_neg heq] at hb
        by_cases hlt : start < first
        · rw [if_pos hlt] at hb
          have hnew := not_mem_starts h hlt
          rcases List.mem_cons.1 hb with rfl | hb
          · exact .inr (.inr ⟨hnew, rfl⟩)
          · refine .inl ⟨?_, hb⟩
            intro hsame
            exact hnew (hsame ▸ List.mem_map_of_mem hb)
        · rw [if_neg hlt] at hb
          rcases List.mem_cons.1 hb with rfl | hb
          · exact .inl ⟨Ne.symm heq, List.mem_cons_self⟩
          · rcases ih hrest hb with ⟨hne, hold⟩ | ⟨old, hold, hb⟩ | ⟨hnew, hb⟩
            · exact .inl ⟨hne, List.mem_cons_of_mem _ hold⟩
            · exact .inr (.inl ⟨old, List.mem_cons_of_mem _ hold, hb⟩)
            · refine .inr (.inr ⟨?_, hb⟩)
              intro hmem
              rcases List.mem_cons.1 hmem with hsame | hmem
              · exact heq hsame
              · exact hnew hmem

/-- No buckets hold the values of no documents. -/
theorem Collects.empty (start : Selected → Int64) : Collects start [] [] where
  ascending := List.Pairwise.nil
  mem_starts _ := Iff.rfl
  values _ hb := absurd hb List.not_mem_nil

/-- One more document goes to the end of its bucket. -/
theorem Collects.add {start : Selected → Int64} {selected : List Selected}
    {bs : List (Int64 × List Json)} (h : Collects start selected bs) (d : Selected) :
    Collects start (selected ++ [d]) (addToBucket (start d) d.value bs) where
  ascending := ascending_addToBucket _ _ h.ascending
  mem_starts s := by
    rw [mem_starts_addToBucket, h.mem_starts, List.map_append, List.mem_append, or_comm,
      List.map_singleton, List.mem_singleton]
  values b hb := by
    rw [List.filter_append, List.map_append]
    rcases mem_addToBucket h.ascending hb with ⟨hne, hold⟩ | ⟨values, hold, rfl⟩ | ⟨hnew, rfl⟩
    · have hlast : [d].filter (start · = b.1) = [] := by simp [Ne.symm hne]
      rw [h.values b hold, hlast, List.map_nil, List.append_nil]
    · have hlast : [d].filter (start · = start d) = [d] := by simp
      have hvalues : values = (selected.filter (start · = start d)).map Selected.value :=
        h.values _ hold
      rw [hlast, hvalues, List.map_singleton]
    · -- no document before this one has its start
      have hnone : selected.filter (start · = start d) = [] := by
        rw [List.filter_eq_nil_iff]
        intro c hc hsame
        rw [decide_eq_true_iff] at hsame
        exact hnew ((h.mem_starts _).2 (hsame ▸ List.mem_map_of_mem hc))
      have hlast : [d].filter (start · = start d) = [d] := by simp
      rw [hnone, hlast]
      rfl

/-- The starts of buckets as integers are those of the documents. -/
theorem Collects.mem_map_toInt {start : Selected → Int64} {selected : List Selected}
    {bs : List (Int64 × List Json)} (h : Collects start selected bs) (b : Int) :
    b ∈ bs.map (·.1.toInt) ↔ ∃ d ∈ selected, (start d).toInt = b := by
  have hmap : bs.map (·.1.toInt) = (bs.map Prod.fst).map Int64.toInt := by
    rw [List.map_map]
    rfl
  rw [hmap, List.mem_map]
  constructor
  · rintro ⟨s, hs, rfl⟩
    obtain ⟨d, hd, rfl⟩ := List.mem_map.1 ((h.mem_starts s).1 hs)
    exact ⟨d, hd, rfl⟩
  · rintro ⟨d, hd, rfl⟩
    exact ⟨start d, (h.mem_starts _).2 (List.mem_map_of_mem hd), rfl⟩

/-- Buckets that go on with more documents. -/
theorem Collects.foldl {start : Selected → Int64} (later : List Selected) :
    ∀ {earlier : List Selected} {bs : List (Int64 × List Json)}, Collects start earlier bs →
      Collects start (earlier ++ later)
        (later.foldl (fun bs d => addToBucket (start d) d.value bs) bs) := by
  induction later with
  | nil =>
      intro earlier bs h
      rw [List.append_nil]
      exact h
  | cons d later ih =>
      intro earlier bs h
      have hnext := ih (h.add d)
      rw [List.append_assoc] at hnext
      exact hnext

/-- The buckets of a plan hold the values of the selected documents. -/
theorem collects_buckets (interval : Int64) (selected : List Selected) :
    Collects (fun d => bucketStart interval d.time) selected (buckets interval selected) :=
  (Collects.empty _).foldl selected

end SeriesQuery.MemoryStore
