import SeriesQuery.Proofs.Catalog.Distinct
import SeriesQuery.Proofs.Catalog.Extremes
import SeriesQuery.Proofs.Store.Shapes

/-!
# Collections in another order

A grouped plan makes its rows of the values of buckets. Rearranging the documents of a collection
rearranges the values of a bucket, and leaves the buckets as they are (`Collects.perm`). Counts,
numbers of different values and extremes do not see that; sorted values see it in the places where
different values tie (`execute_rearranged`).
-/

namespace SeriesQuery

open Json

namespace Aggregation

variable {values others : List Json}

/-- The aggregations that count values or keep one number. -/
def ignoringOrder : List Aggregation := [count, countDistinct, min, max]

/-- Counts and extremes do not depend on the order of the values. -/
theorem apply_perm {a : Aggregation} (ha : a ∈ ignoringOrder) (hfinite : ∀ v ∈ values, v.Finite)
    (h : values.Perm others) : a.apply values = a.apply others := by
  simp only [ignoringOrder, List.mem_cons, List.not_mem_nil, or_false] at ha
  rcases ha with rfl | rfl | rfl | rfl
  · show Json.nat values.length = Json.nat others.length
    rw [h.length_eq]
  · have hlength := (map_same_distinct_perm hfinite h).length_eq
    rw [List.length_map, List.length_map] at hlength
    show Json.nat (distinct values).length = Json.nat (distinct others).length
    rw [hlength]
  · exact Extreme.min.apply_perm hfinite h
  · exact Extreme.max.apply_perm hfinite h

end Aggregation

namespace MemoryStore

/-- Buckets with one start, of which one has the values of the other in some order. -/
def SameBucket (b b' : Int64 × List Json) : Prop := b.1 = b'.1 ∧ b.2.Perm b'.2

/-- Ascending starts are determined by what the starts are. -/
theorem Collects.starts_eq {start : Selected → Int64} {xs ys : List Selected}
    {bs bs' : List (Int64 × List Json)} (h : Collects start xs bs) (h' : Collects start ys bs')
    (hperm : xs.Perm ys) : bs.map Prod.fst = bs'.map Prod.fst := by
  have hascending := List.pairwise_map.2 h.ascending
  have hascending' := List.pairwise_map.2 h'.ascending
  have hnodup : ∀ l : List Int64, l.Pairwise (· < ·) → l.Nodup := by
    intro l hl
    refine hl.imp ?_
    rintro a b hab rfl
    exact Int64.lt_irrefl hab
  have hstarts : (bs.map Prod.fst).Perm (bs'.map Prod.fst) := by
    rw [List.perm_ext_iff_of_nodup (hnodup _ hascending) (hnodup _ hascending')]
    intro s
    rw [h.mem_starts, h'.mem_starts]
    exact (hperm.map start).mem_iff
  refine hstarts.eq_of_pairwise ?_ hascending hascending'
  intro a b _ _ hab hba
  exact absurd (Int64.lt_trans hab hba) Int64.lt_irrefl

/-- Documents in another order make the same buckets. -/
theorem Collects.perm {start : Selected → Int64} {xs ys : List Selected}
    {bs bs' : List (Int64 × List Json)} (h : Collects start xs bs) (h' : Collects start ys bs')
    (hperm : xs.Perm ys) : List.Forall₂ SameBucket bs bs' := by
  have hstarts := h.starts_eq h' hperm
  rw [← List.forall₂_eq_eq_eq, List.forall₂_map_left_iff, List.forall₂_map_right_iff] at hstarts
  refine forall₂_imp_of_mem hstarts ?_
  intro b hb b' hb' hstart
  refine ⟨hstart, ?_⟩
  rw [h.values b hb, h'.values b' hb', hstart]
  exact (hperm.filter _).map _

variable {p : Plan} {e : PlanExprs} {docs others : List Json}

/-- The row of a bucket. -/
def bucketRow (p : Plan) (b : Int64 × List Json) : Json :=
  .arr [p.aggregation.apply b.2, .ofFloat (Binary64.ofInt64 b.1)]

/-- The buckets of the documents that a plan selects. -/
def bucketsOf (p : Plan) (e : PlanExprs) (docs : List Json) : List (Int64 × List Json) :=
  buckets p.interval ((selected p e docs).map (taken e))

/-- A grouped plan has a row for each bucket. -/
theorem execute_bucketRow {s : MemoryStore} (hexprs : PlanExprs.ofPlan p = .ok e)
    (hdocs : Dict.get? s.collections p.collection = some docs) (hgrouped : p.isGrouped = true) :
    s.execute p = .ok ((bucketsOf p e docs).map (bucketRow p)) := by
  rw [execute_eq hexprs hdocs, rows, if_pos hgrouped]
  rfl

/-- Documents in another order make the same buckets of a plan. -/
theorem bucketsOf_perm (hperm : docs.Perm others) :
    List.Forall₂ SameBucket (bucketsOf p e docs) (bucketsOf p e others) :=
  (collects_buckets p.interval _).perm (collects_buckets p.interval _)
    ((hperm.filter (selects p e)).map (taken e))

/-- The values of a bucket are those of the selected documents with its start. -/
theorem exists_doc_of_mem_bucket {b : Int64 × List Json} (hb : b ∈ bucketsOf p e docs) {v : Json}
    (hv : v ∈ b.2) :
    ∃ doc ∈ selected p e docs, bucketStart p.interval (timeOf e doc) = b.1 ∧ valueOf e doc = v := by
  rw [(collects_buckets p.interval _).values b hb] at hv
  obtain ⟨d, hd, rfl⟩ := List.mem_map.1 hv
  obtain ⟨hmem, hstart⟩ := List.mem_filter.1 hd
  obtain ⟨doc, hdoc, rfl⟩ := List.mem_map.1 hmem
  exact ⟨doc, hdoc, of_decide_eq_true hstart, rfl⟩

/-- The values of the buckets of documents of the data format are ones of the data format. -/
theorem finite_of_mem_bucket (hexprs : PlanExprs.ofPlan p = .ok e)
    (hfinite : ∀ doc ∈ docs, doc.Finite) {b : Int64 × List Json} (hb : b ∈ bucketsOf p e docs) :
    ∀ v ∈ b.2, v.Finite := by
  intro v hv
  obtain ⟨doc, hdoc, -, rfl⟩ := exists_doc_of_mem_bucket hb hv
  exact finite_valueOf hexprs (hfinite doc (List.mem_of_mem_filter hdoc))

/-- Rows of one bucket with the same values up to plain equality, that tie place by place. -/
inductive RowsTie : Json → Json → Prop where
  /-- Two lists of values with one start. -/
  | mk {items items' : List Json} (start : Json) (h : Aggregation.SameUpToTies items items') :
      RowsTie (.arr [.arr items, start]) (.arr [.arr items', start])

/-- Whether values of one bucket that tie are one value. -/
def TiesIdentical (p : Plan) (e : PlanExprs) (docs : List Json) : Prop :=
  ∀ doc ∈ selected p e docs, ∀ other ∈ selected p e docs,
    bucketStart p.interval (timeOf e doc) = bucketStart p.interval (timeOf e other) →
      order (valueOf e doc) (valueOf e other) = .eq → valueOf e doc = valueOf e other

/-- Rows are related if the row of a bucket is related to that of the same bucket with its values in
another order. -/
theorem forall₂_bucketRow {R : Json → Json → Prop} (hperm : docs.Perm others)
    (h : ∀ b ∈ bucketsOf p e docs, ∀ values, b.2.Perm values →
      R (bucketRow p b) (bucketRow p (b.1, values))) :
    List.Forall₂ R ((bucketsOf p e docs).map (bucketRow p))
      ((bucketsOf p e others).map (bucketRow p)) := by
  rw [List.forall₂_map_left_iff, List.forall₂_map_right_iff]
  refine forall₂_imp_of_mem (bucketsOf_perm hperm) ?_
  rintro b hb ⟨start, values⟩ - ⟨rfl, hvalues⟩
  exact h b hb values hvalues

section Perm

variable (hexprs : PlanExprs.ofPlan p = .ok e) (hfinite : ∀ doc ∈ docs, doc.Finite)
  (hperm : docs.Perm others)

include hexprs hfinite hperm

/-- Counts and extremes of buckets do not depend on the order of the documents. -/
theorem map_bucketRow_perm (ha : p.aggregation ∈ Aggregation.ignoringOrder) :
    (bucketsOf p e docs).map (bucketRow p) = (bucketsOf p e others).map (bucketRow p) := by
  rw [← List.forall₂_eq_eq_eq]
  refine forall₂_bucketRow hperm ?_
  intro b hb values hvalues
  rw [bucketRow, bucketRow,
    Aggregation.apply_perm ha (finite_of_mem_bucket hexprs hfinite hb) hvalues]

/-- Sorted values of buckets depend on the order of the documents in the places of ties only. -/
theorem rowsTie_bucketRow_perm (ha : p.aggregation = .sortedUnique) :
    List.Forall₂ RowsTie ((bucketsOf p e docs).map (bucketRow p))
      ((bucketsOf p e others).map (bucketRow p)) := by
  refine forall₂_bucketRow hperm ?_
  intro b hb values hvalues
  rw [bucketRow, bucketRow, ha]
  exact .mk _ (Aggregation.sameUpToTies_ascending (finite_of_mem_bucket hexprs hfinite hb) hvalues)

/-- Sorted values of buckets do not depend on the order of the documents if ties are identical. -/
theorem map_bucketRow_perm_of_ties (ha : p.aggregation = .sortedUnique)
    (hties : TiesIdentical p e docs) :
    (bucketsOf p e docs).map (bucketRow p) = (bucketsOf p e others).map (bucketRow p) := by
  rw [← List.forall₂_eq_eq_eq]
  refine forall₂_bucketRow hperm ?_
  intro b hb values hvalues
  have hvf := finite_of_mem_bucket hexprs hfinite hb
  have hvf' : ∀ v ∈ values, v.Finite := fun v hv => hvf v (hvalues.mem_iff.2 hv)
  have hitems : Aggregation.ascending b.2 = Aggregation.ascending values := by
    refine (Aggregation.sameUpToTies_ascending hvf hvalues).eq ?_
    intro v hv w hw htie
    obtain ⟨doc, hdoc, hstart, rfl⟩ :=
      exists_doc_of_mem_bucket hb (Aggregation.mem_of_mem_ascending hvf hv)
    obtain ⟨other, hother, hstart', rfl⟩ := exists_doc_of_mem_bucket hb
      (hvalues.mem_iff.2 (Aggregation.mem_of_mem_ascending hvf' hw))
    exact hties doc hdoc other hother (hstart.trans hstart'.symm) htie
  rw [bucketRow, bucketRow, ha]
  exact congrArg (fun items => Json.arr [.arr items, _]) hitems

end Perm

/-- A grouped plan that counts, counts different values, or takes an extreme has the same result for
documents of the data format in any order. With sorted values it has a row for the same buckets, in
the same order, whose values are the same up to plain equality and up to the order of values that tie;
and it has the same rows if no two different values of a bucket tie. -/
theorem execute_rearranged (s s' : MemoryStore) (p : Plan) {docs others : List Json}
    (hdocs : Dict.get? s.collections p.collection = some docs)
    (hothers : Dict.get? s'.collections p.collection = some others) (hperm : docs.Perm others)
    (hfinite : ∀ doc ∈ docs, doc.Finite) (hgrouped : p.isGrouped = true) :
    (p.aggregation ∈ Aggregation.ignoringOrder → s.execute p = s'.execute p) ∧
    (p.aggregation = .sortedUnique →
      (∀ error, PlanExprs.ofPlan p = .error error →
        s.execute p = .error (.expression error) ∧ s'.execute p = .error (.expression error)) ∧
      ∀ e, PlanExprs.ofPlan p = .ok e →
        ∃ rows rows', s.execute p = .ok rows ∧ s'.execute p = .ok rows' ∧
          List.Forall₂ RowsTie rows rows' ∧ (TiesIdentical p e docs → rows = rows')) := by
  have hfails : ∀ (s : MemoryStore) error, PlanExprs.ofPlan p = .error error →
      s.execute p = .error (.expression error) := by
    intro s error herror
    rw [execute, herror]
  constructor
  · intro ha
    cases hexprs : PlanExprs.ofPlan p with
    | error error => rw [hfails s error hexprs, hfails s' error hexprs]
    | ok e =>
        rw [execute_bucketRow hexprs hdocs hgrouped, execute_bucketRow hexprs hothers hgrouped,
          map_bucketRow_perm hexprs hfinite hperm ha]
  · intro ha
    refine ⟨fun error herror => ⟨hfails s error herror, hfails s' error herror⟩, ?_⟩
    intro e hexprs
    exact ⟨_, _, execute_bucketRow hexprs hdocs hgrouped, execute_bucketRow hexprs hothers hgrouped,
      rowsTie_bucketRow_perm hexprs hfinite hperm ha,
      map_bucketRow_perm_of_ties hexprs hfinite hperm ha⟩

/-- The plan with the unaligned range, for another aggregation. -/
def planFor (a : Aggregation) : Plan := { unalignedPlan with aggregation := a }

/-- The texts of the plan are read. -/
theorem ofPlan_planFor (a : Aggregation) : PlanExprs.ofPlan (planFor a) = .ok unalignedExprs :=
  ofPlan_unaligned

/-- A document whose value is an array of one integer. -/
def arrayDoc (time item : ℤ) : Json := .obj [("t", .int time), ("v", .arr [.int item])]

/-- Two documents of one bucket whose values tie. -/
def tyingDocs : List Json := [arrayDoc 0 1, arrayDoc 1 2]

/-- A document with an array of an integer is a value of the data format. -/
theorem finite_arrayDoc (time item : ℤ) : (arrayDoc time item).Finite := by
  refine .obj ?_
  intro field hfield
  simp only [List.mem_cons, List.not_mem_nil, or_false] at hfield
  rcases hfield with rfl | rfl
  · exact .num trivial
  · refine .arr ?_
    intro v hv
    rw [List.mem_singleton.1 hv]
    exact .num trivial

/-- Documents whose values tie are counted alike in both orders, and have rows that tie. Documents
with different integers have the same sorted values in both orders. -/
theorem execute_rearranged_tying :
    execute ⟨[("load", tyingDocs)], []⟩ (planFor .count) =
      execute ⟨[("load", tyingDocs.reverse)], []⟩ (planFor .count) ∧
    (∃ rows rows', execute ⟨[("load", tyingDocs)], []⟩ (planFor .sortedUnique) = .ok rows ∧
      execute ⟨[("load", tyingDocs.reverse)], []⟩ (planFor .sortedUnique) = .ok rows' ∧
      List.Forall₂ RowsTie rows rows') ∧
    execute ⟨[("load", unalignedDocs)], []⟩ (planFor .sortedUnique) =
      execute ⟨[("load", unalignedDocs.reverse)], []⟩ (planFor .sortedUnique) := by
  have hfinite : ∀ doc ∈ tyingDocs, doc.Finite := by
    intro doc hdoc
    simp only [tyingDocs, List.mem_cons, List.not_mem_nil, or_false] at hdoc
    rcases hdoc with rfl | rfl
    · exact finite_arrayDoc 0 1
    · exact finite_arrayDoc 1 2
  have hhalf : Number.Finite (.float (Float.ofBits 0xC004000000000000)) := rfl
  have hwhole : ∀ z, Number.Finite (.int z) := fun _ => trivial
  have hfinite' : ∀ doc ∈ unalignedDocs, doc.Finite := by
    intro doc hdoc
    simp only [unalignedDocs, List.mem_cons, List.not_mem_nil, or_false] at hdoc
    rcases hdoc with rfl | rfl | rfl | rfl
    · exact finite_timedDoc hhalf 1
    · exact finite_timedDoc (hwhole 3) 2
    · exact finite_timedDoc (hwhole (-1)) 3
    · exact finite_timedDoc (hwhole 4) 4
  have hties : TiesIdentical (planFor .sortedUnique) unalignedExprs unalignedDocs := by
    intro doc hdoc other hother _ htie
    have hdoc := List.mem_of_mem_filter hdoc
    have hother := List.mem_of_mem_filter hother
    simp only [unalignedDocs, List.mem_cons, List.not_mem_nil, or_false] at hdoc hother
    rcases hdoc with rfl | rfl | rfl | rfl <;> rcases hother with rfl | rfl | rfl | rfl <;>
      first | rfl | exact absurd htie (by decide +kernel)
  obtain ⟨hcounts, -⟩ := execute_rearranged ⟨[("load", tyingDocs)], []⟩
    ⟨[("load", tyingDocs.reverse)], []⟩ (planFor .count) rfl rfl tyingDocs.reverse_perm.symm hfinite
    rfl
  obtain ⟨-, hsorts⟩ := execute_rearranged ⟨[("load", tyingDocs)], []⟩
    ⟨[("load", tyingDocs.reverse)], []⟩ (planFor .sortedUnique) rfl rfl
    tyingDocs.reverse_perm.symm hfinite rfl
  obtain ⟨-, hsorts'⟩ := execute_rearranged ⟨[("load", unalignedDocs)], []⟩
    ⟨[("load", unalignedDocs.reverse)], []⟩ (planFor .sortedUnique) rfl rfl
    unalignedDocs.reverse_perm.symm hfinite' rfl
  obtain ⟨rows, rows', hrows, hrows', htied, -⟩ := (hsorts rfl).2 _ (ofPlan_planFor _)
  obtain ⟨exact, exact', hexact, hexact', -, hsame⟩ := (hsorts' rfl).2 _ (ofPlan_planFor _)
  refine ⟨hcounts (by decide), ⟨rows, rows', hrows, hrows', htied⟩, ?_⟩
  rw [hexact, hexact', hsame hties]

/-- Two documents in the bucket of time zero with different values in ascending order have a row with
the values as they come. -/
theorem execute_pair {doc other : Json}
    (hdoc : selects (planFor .sortedUnique) unalignedExprs doc = true ∧
      bucketStart 2 (timeOf unalignedExprs doc) = 0)
    (hother : selects (planFor .sortedUnique) unalignedExprs other = true ∧
      bucketStart 2 (timeOf unalignedExprs other) = 0)
    (hle : Json.le (valueOf unalignedExprs doc) (valueOf unalignedExprs other) = true)
    (hdiffer : same (valueOf unalignedExprs doc) (valueOf unalignedExprs other) = false) :
    execute ⟨[("load", [doc, other])], []⟩ (planFor .sortedUnique) =
      .ok [.arr [.arr [valueOf unalignedExprs doc, valueOf unalignedExprs other], .int 0]] := by
  have hselected : selected (planFor .sortedUnique) unalignedExprs [doc, other] = [doc, other] := by
    rw [selected, List.filter_cons_of_pos hdoc.1, List.filter_cons_of_pos hother.1, List.filter_nil]
  have hbuckets : bucketsOf (planFor .sortedUnique) unalignedExprs [doc, other] =
      [(0, [valueOf unalignedExprs doc, valueOf unalignedExprs other])] := by
    rw [bucketsOf, hselected]
    show addToBucket (bucketStart 2 (timeOf unalignedExprs other)) _
      (addToBucket (bucketStart 2 (timeOf unalignedExprs doc)) _ []) = _
    rw [hdoc.2, hother.2]
    rfl
  have hdistinct : Aggregation.distinct
      [valueOf unalignedExprs doc, valueOf unalignedExprs other] =
        [valueOf unalignedExprs doc, valueOf unalignedExprs other] := by
    simp [Aggregation.distinct, Aggregation.occurs, hdiffer]
  have hsorted : Aggregation.ascending
      [valueOf unalignedExprs doc, valueOf unalignedExprs other] =
        [valueOf unalignedExprs doc, valueOf unalignedExprs other] := by
    rw [Aggregation.ascending, hdistinct]
    exact List.mergeSort_of_pairwise (List.pairwise_pair.2 hle)
  have hzero : Json.ofFloat (Binary64.ofInt64 0) = .int 0 :=
    (Binary64.hasValue_ofInt (z := 0) (by decide)).ofFloat_eq (by decide)
  rw [execute_bucketRow (ofPlan_planFor _) rfl rfl, hbuckets, List.map_singleton, bucketRow, hzero]
  show Except.ok [Json.arr [.arr (Aggregation.ascending _), _]] = _
  rw [hsorted]

/-- Values that tie are sorted in the order of their documents, so that two orders of them make
different rows. -/
theorem execute_tying :
    tyingDocs.Perm tyingDocs.reverse ∧ (planFor .sortedUnique).isGrouped = true ∧
    execute ⟨[("load", tyingDocs)], []⟩ (planFor .sortedUnique) =
      .ok [.arr [.arr [.arr [.int 1], .arr [.int 2]], .int 0]] ∧
    execute ⟨[("load", tyingDocs.reverse)], []⟩ (planFor .sortedUnique) =
      .ok [.arr [.arr [.arr [.int 2], .arr [.int 1]], .int 0]] := by
  have hfirst : selects (planFor .sortedUnique) unalignedExprs (arrayDoc 0 1) = true ∧
      bucketStart 2 (timeOf unalignedExprs (arrayDoc 0 1)) = 0 := by decide +kernel
  have hsecond : selects (planFor .sortedUnique) unalignedExprs (arrayDoc 1 2) = true ∧
      bucketStart 2 (timeOf unalignedExprs (arrayDoc 1 2)) = 0 := by decide +kernel
  exact ⟨tyingDocs.reverse_perm.symm, rfl, execute_pair hfirst hsecond rfl rfl,
    execute_pair hsecond hfirst rfl rfl⟩

end MemoryStore

end SeriesQuery
