import SeriesQuery.Proofs.Json.Order
import SeriesQuery.Proofs.Results
import SeriesQuery.Proofs.Store.Grouped

/-!
# The shapes of an answer

The store answers a plan in three ways: with a row for each selected document, the time first or the
value first, or with a row for each bucket of them. `execute_shapes` says that all three are made of
the same documents. The rows of documents are sorted by time, and those of one time stay in the order
of the collection; the buckets count each document once.
-/

namespace SeriesQuery

open Binary64

namespace MemoryStore

variable {p : Plan} {e : PlanExprs} {doc : Json} {docs : List Json}

/-- What a plan finds as the time of a document. -/
def dateOf (e : PlanExprs) (doc : Json) : Json := e.date.eval [("doc", doc)]

/-- What a plan finds as the value of a document. -/
def valueOf (e : PlanExprs) (doc : Json) : Json := e.value.eval [("doc", doc)]

/-- The time of a document as a double. -/
def timeOf (e : PlanExprs) (doc : Json) : Float := (dateOf e doc).toFloat

/-- Whether a plan selects a document: its time is a number whose whole part lies in the range, and
the filter is absent or holds. -/
def selects (p : Plan) (e : PlanExprs) (doc : Json) : Bool :=
  match dateOf e doc with
  | .num n => p.range.contains (toInt64 (Binary64.floor n.toFloat)) && filterHolds e doc
  | _ => false

/-- The documents that a plan selects, in the order of the collection. -/
def selected (p : Plan) (e : PlanExprs) (docs : List Json) : List Json := docs.filter (selects p e)

/-- What the store takes of a document that it selects. -/
def taken (e : PlanExprs) (doc : Json) : Selected := ⟨timeOf e doc, dateOf e doc, valueOf e doc⟩

/-- A document whose time is a number. -/
theorem selects_of_num {n : Number} (h : dateOf e doc = .num n) :
    selects p e doc =
      (p.range.contains (toInt64 (Binary64.floor n.toFloat)) && filterHolds e doc) := by
  rw [selects, h]

/-- The time of a selected document is a number. -/
theorem exists_num_of_selects (h : selects p e doc = true) : ∃ n, dateOf e doc = .num n := by
  rw [selects] at h
  cases hdate : dateOf e doc with
  | num n => exact ⟨n, rfl⟩
  | _ => simp [hdate] at h

/-- The store selects documents with their times and values. -/
theorem select?_eq (p : Plan) (e : PlanExprs) (doc : Json) :
    select? p e doc = if selects p e doc then some (taken e doc) else none := by
  cases hdate : dateOf e doc with
  | num n =>
      have htime : timeOf e doc = n.toFloat := by
        rw [timeOf, hdate]
        rfl
      rw [select?_of_num hdate, selects_of_num hdate, taken, htime]
      rfl
  | _ =>
      rw [selects, hdate, select?]
      unfold dateOf at hdate
      rw [hdate]
      rfl

/-- The store selects the documents of a plan in their order. -/
theorem filterMap_select? (p : Plan) (e : PlanExprs) (docs : List Json) :
    docs.filterMap (select? p e) = (selected p e docs).map (taken e) := by
  unfold selected
  induction docs with
  | nil => rfl
  | cons doc docs ih =>
      cases hselects : selects p e doc with
      | true =>
          rw [List.filterMap_cons_some (by rw [select?_eq, if_pos hselects]), ih,
            List.filter_cons_of_pos hselects, List.map_cons]
      | false =>
          rw [List.filterMap_cons_none (by rw [select?_eq, hselects]; rfl), ih,
            List.filter_cons_of_neg (by simp [hselects])]

/-- The selected documents in the order of their times. -/
def byTimeOf (e : PlanExprs) (docs : List Json) : List Json :=
  docs.mergeSort fun a b => !(timeOf e b < timeOf e a)

/-- The store sorts what it takes of documents like the documents. -/
theorem byTime_map_taken (e : PlanExprs) (docs : List Json) :
    byTime (docs.map (taken e)) = (byTimeOf e docs).map (taken e) := by
  rw [byTimeOf, byTime, List.map_mergeSort]
  intro a _ b _
  rfl

/-- The expressions for times and values are ones that were read. -/
theorem PlanExprs.produced (h : PlanExprs.ofPlan p = .ok e) :
    e.date.Produced ∧ e.value.Produced := by
  obtain ⟨date, hdate, h⟩ := exists_of_bind_ok h
  obtain ⟨value, hvalue, h⟩ := exists_of_bind_ok h
  obtain ⟨filter, -, h⟩ := exists_of_bind_ok h
  cases h
  exact ⟨Expr.produced_of_parse hdate, Expr.produced_of_parse hvalue⟩

/-- The value of a document of the data format is one of the data format. -/
theorem finite_valueOf (hexprs : PlanExprs.ofPlan p = .ok e) (hdoc : doc.Finite) :
    (valueOf e doc).Finite := by
  refine (PlanExprs.produced hexprs).2.finite_eval ?_
  simpa using hdoc

/-- The times of the selected documents are numbers as doubles. -/
theorem not_isNaN_timeOf (hexprs : PlanExprs.ofPlan p = .ok e) (hdoc : doc.Finite)
    (h : selects p e doc = true) : (timeOf e doc).isNaN = false := by
  obtain ⟨n, hdate⟩ := exists_num_of_selects h
  have hfinite : (dateOf e doc).Finite := by
    refine (PlanExprs.produced hexprs).1.finite_eval ?_
    simpa using hdoc
  rw [timeOf, hdate]
  rw [hdate] at hfinite
  cases hfinite with
  | num hn => exact Number.not_isNaN_toFloat hn

/-- The number of values in some buckets. -/
def valueCount (bs : List (Int64 × List Json)) : ℕ := (bs.map (·.2.length)).sum

/-- Adding a value makes one value more. -/
theorem valueCount_addToBucket (start : Int64) (value : Json) (bs : List (Int64 × List Json)) :
    valueCount (addToBucket start value bs) = valueCount bs + 1 := by
  unfold valueCount
  induction bs with
  | nil => rfl
  | cons b rest ih =>
      obtain ⟨first, values⟩ := b
      unfold addToBucket
      split
      · simp only [List.map_cons, List.sum_cons, List.length_append, List.length_singleton]
        omega
      · split
        · simp only [List.map_cons, List.sum_cons, List.length_singleton]
          omega
        · simp only [List.map_cons, List.sum_cons, ih]
          omega

/-- Adding documents makes as many values more. -/
theorem valueCount_foldl (start : Selected → Int64) (later : List Selected)
    (bs : List (Int64 × List Json)) :
    valueCount (later.foldl (fun bs d => addToBucket (start d) d.value bs) bs) =
      valueCount bs + later.length := by
  induction later generalizing bs with
  | nil => rfl
  | cons d later ih =>
      rw [List.foldl_cons, ih, valueCount_addToBucket, List.length_cons]
      omega

/-- The buckets of a plan have one value for each selected document. -/
theorem valueCount_buckets (interval : Int64) (selected : List Selected) :
    valueCount (buckets interval selected) = selected.length := by
  rw [buckets, valueCount_foldl]
  exact Nat.zero_add _

section Execute

variable {s : MemoryStore} (hexprs : PlanExprs.ofPlan p = .ok e)
  (hdocs : Dict.get? s.collections p.collection = some docs)

include hexprs hdocs

/-- The store makes the rows of a plan of the documents that it selects. -/
theorem execute_eq : s.execute p = .ok (rows p ((selected p e docs).map (taken e))) := by
  rw [execute, hexprs]
  simp only [hdocs, filterMap_select?]

/-- A plan that is not grouped has a row for each selected document. -/
theorem execute_ungrouped (h : p.isGrouped = false) :
    s.execute p = .ok ((byTimeOf e (selected p e docs)).map fun doc =>
      match p.shape with
      | .table => .arr [dateOf e doc, valueOf e doc]
      | .series => .arr [valueOf e doc, dateOf e doc]) := by
  rw [execute_eq hexprs hdocs, rows, h, if_neg Bool.false_ne_true, byTime_map_taken, List.map_map]
  rfl

/-- A grouped plan that counts has a count for each bucket, and counts every selected document. -/
theorem execute_counted (hgrouped : p.isGrouped = true) (hcount : p.aggregation = .count) :
    ∃ counts : List (ℕ × Json),
      s.execute p = .ok (counts.map fun row => .arr [.nat row.1, row.2]) ∧
      (counts.map Prod.fst).sum = (selected p e docs).length := by
  refine ⟨(buckets p.interval ((selected p e docs).map (taken e))).map fun bucket =>
    (bucket.2.length, .ofFloat (Binary64.ofInt64 bucket.1)), ?_, ?_⟩
  · rw [execute_eq hexprs hdocs, rows, hgrouped, if_pos rfl, hcount, List.map_map]
    rfl
  · rw [List.map_map]
    refine (valueCount_buckets p.interval _).trans ?_
    rw [List.length_map]

end Execute

/-- The three ways of running a plan agree on documents of the data format. There is one row for each
selected document, in the order of their times and for one time in the order of the collection, with
the time first or the value first. Buckets of any width count as many documents. -/
theorem execute_shapes {s : MemoryStore} (hexprs : PlanExprs.ofPlan p = .ok e)
    (hdocs : Dict.get? s.collections p.collection = some docs)
    (hfinite : ∀ doc ∈ docs, doc.Finite) :
    ∃ ordered, StablySorted (timeOf e) ordered (selected p e docs) ∧
      s.execute { p with shape := .table } =
        .ok (ordered.map fun doc => .arr [dateOf e doc, valueOf e doc]) ∧
      s.execute { p with shape := .series, aggregation := .none } =
        .ok (ordered.map fun doc => .arr [valueOf e doc, dateOf e doc]) ∧
      ∀ interval, ∃ counts : List (ℕ × Json),
        s.execute { p with shape := .series, aggregation := .count, interval } =
          .ok (counts.map fun row => .arr [.nat row.1, row.2]) ∧
        (counts.map Prod.fst).sum = ordered.length := by
  have hnumbers : ∀ doc ∈ selected p e docs, (timeOf e doc).isNaN = false := by
    intro doc hdoc
    obtain ⟨hmem, hselects⟩ := List.mem_filter.1 hdoc
    exact not_isNaN_timeOf hexprs (hfinite doc hmem) hselects
  have hsorted := stablySorted_mergeSort hnumbers
  -- all three plans have the expressions of this one and select the same documents
  refine ⟨byTimeOf e (selected p e docs), hsorted, ?_, ?_, ?_⟩
  · exact execute_ungrouped (p := { p with shape := .table }) hexprs hdocs rfl
  · exact execute_ungrouped (p := { p with shape := .series, aggregation := .none }) hexprs hdocs rfl
  · intro interval
    obtain ⟨counts, hrows, hsum⟩ := execute_counted
      (p := { p with shape := .series, aggregation := .count, interval }) hexprs hdocs rfl rfl
    exact ⟨counts, hrows, hsum.trans hsorted.perm.length_eq.symm⟩

/-- Documents of which two have one time, written differently, and one has a text as its time. -/
def tiedDocs : List Json :=
  [timedDoc (.float (Float.ofBits 0x4004000000000000)) 1, timedDoc (.int 1) 2,
    .obj [("t", .str "soon"), ("v", .int 3)], timedDoc (.float (Float.ofBits 0x3FF0000000000000)) 4]

/-- A document with a finite time is a value of the data format. -/
theorem finite_timedDoc {time : Number} (h : time.Finite) (value : ℤ) :
    (timedDoc time value).Finite := by
  refine .obj ?_
  intro field hfield
  simp only [List.mem_cons, List.not_mem_nil, or_false] at hfield
  rcases hfield with rfl | rfl
  · exact .num h
  · exact .num trivial

/-- Three documents are selected, and make three rows in both orders; buckets of width two count all
three. -/
theorem execute_shapes_tied :
    (selected unalignedPlan unalignedExprs tiedDocs).length = 3 ∧
    ∃ ordered, StablySorted (timeOf unalignedExprs) ordered
        (selected unalignedPlan unalignedExprs tiedDocs) ∧
      execute ⟨[("load", tiedDocs)], []⟩ { unalignedPlan with shape := .table } =
        .ok (ordered.map fun doc => .arr [dateOf unalignedExprs doc, valueOf unalignedExprs doc]) ∧
      execute ⟨[("load", tiedDocs)], []⟩
          { unalignedPlan with shape := .series, aggregation := .none } =
        .ok (ordered.map fun doc => .arr [valueOf unalignedExprs doc, dateOf unalignedExprs doc]) ∧
      ∃ counts : List (ℕ × Json),
        execute ⟨[("load", tiedDocs)], []⟩
            { unalignedPlan with shape := .series, aggregation := .count, interval := 2 } =
          .ok (counts.map fun row => .arr [.nat row.1, row.2]) ∧
        (counts.map Prod.fst).sum = ordered.length := by
  have hhalf : Number.Finite (.float (Float.ofBits 0x4004000000000000)) := rfl
  have hone : Number.Finite (.float (Float.ofBits 0x3FF0000000000000)) := rfl
  have hwhole : Number.Finite (.int 1) := trivial
  have hfinite : ∀ doc ∈ tiedDocs, doc.Finite := by
    intro doc hdoc
    simp only [tiedDocs, List.mem_cons, List.not_mem_nil, or_false] at hdoc
    rcases hdoc with rfl | rfl | rfl | rfl
    · exact finite_timedDoc hhalf 1
    · exact finite_timedDoc hwhole 2
    · refine .obj ?_
      intro field hfield
      simp only [List.mem_cons, List.not_mem_nil, or_false] at hfield
      rcases hfield with rfl | rfl
      · exact .str "soon"
      · exact .num trivial
    · exact finite_timedDoc hone 4
  obtain ⟨ordered, hsorted, htable, hseries, hcounts⟩ :=
    execute_shapes (s := ⟨[("load", tiedDocs)], []⟩) ofPlan_unaligned rfl hfinite
  exact ⟨rfl, ordered, hsorted, htable, hseries, hcounts 2⟩

end MemoryStore

end SeriesQuery
