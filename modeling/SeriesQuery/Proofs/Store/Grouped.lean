import SeriesQuery.Proofs.Number.Whole
import SeriesQuery.Proofs.Store.Buckets

/-!
# Grouped plans of the store in memory

A grouped plan means the same as its text in the query language. The documents of the plan are those
whose exact time lies in the range and whose filter holds; a bucket starts at a multiple of the
interval, and its row has the aggregation of the values of the documents whose times lie in it. The
store computes with doubles, and up to `2 ^ 52` its floors and products are exact. So it makes the
rows that the plan means where it selects the documents that the plan means (`execute_of_agrees`).
-/

namespace SeriesQuery

open Binary64

/-- The exact value of a number; nothing for a double that is not finite. -/
def Number.value? : Number → Option ℚ
  | .int z => some z
  | .float x => Binary64.value? x

namespace Binary64

/-- The times of a bucket are those with one quotient. -/
theorem mem_bucket_iff {w k : ℤ} {d : ℚ} (hw : 1 ≤ w) :
    ((w * k : ℤ) : ℚ) ≤ d ∧ d < ((w * k : ℤ) : ℚ) + w ↔ ⌊d / w⌋ = k := by
  have hwq : (0 : ℚ) < w := by exact_mod_cast hw
  rw [Int.floor_eq_iff, le_div_iff₀ hwq, div_lt_iff₀ hwq]
  push_cast
  rw [mul_comm (w : ℚ), add_mul, one_mul]

/-- The start of a bucket is below `2 ^ 53` in magnitude. -/
theorem natAbs_bucket_lt {w : ℤ} {d : ℚ} (hw : 1 ≤ w) (hwle : w ≤ 2 ^ 52) (hd : |d| ≤ 2 ^ 52) :
    (w * ⌊d / w⌋).natAbs < 2 ^ 53 := by
  obtain ⟨hle, hlt⟩ := (mem_bucket_iff (d := d) hw).2 rfl
  obtain ⟨hlow, hhigh⟩ := abs_le.1 hd
  have hwq : (w : ℚ) ≤ 2 ^ 52 := by exact_mod_cast hwle
  have hbelow : -(2 : ℚ) ^ 53 < ((w * ⌊d / w⌋ : ℤ) : ℚ) := by linarith
  have habove : ((w * ⌊d / w⌋ : ℤ) : ℚ) < 2 ^ 53 := by linarith
  have : -2 ^ 53 < w * ⌊d / w⌋ := by exact_mod_cast hbelow
  have : w * ⌊d / w⌋ < 2 ^ 53 := by exact_mod_cast habove
  omega

end Binary64

/-- A number of the domain is exact as a double. -/
theorem Number.hasValue_toFloat {n : Number} {d : ℚ} (h : n.value? = some d) (hd : InDomain d) :
    HasValue n.toFloat d := by
  cases n with
  | int z =>
      obtain rfl : (z : ℚ) = d := Option.some.inj h
      have hz := natAbs_floor_le hd.abs_le
      rw [Int.floor_intCast] at hz
      exact hasValue_ofInt (by omega)
  | float x =>
      refine hasValue_of_value? h ?_
      rcases hd with hzero | ⟨hone, _⟩
      · exact .inl hzero
      · exact .inr hone

namespace MemoryStore

/-- The start of a bucket is the multiple of the interval that is not above the time. -/
theorem toInt_bucketStart {interval : Int64} {time : Float} {d : ℚ} (ht : HasValue time d)
    (hd : InDomain d) (hpos : 1 ≤ interval.toInt) (hmax : interval.toInt ≤ 2 ^ 52) :
    (bucketStart interval time).toInt = interval.toInt * ⌊d / interval.toInt⌋ := by
  have hstart := natAbs_bucket_lt hpos hmax hd.abs_le
  have hwidth : HasValue (ofInt64 interval) interval.toInt := hasValue_ofInt (by omega)
  obtain ⟨w, hw⟩ := Int.eq_ofNat_of_zero_le (show 0 ≤ interval.toInt by omega)
  have hcast : (interval.toInt : ℚ) = w := by rw [hw, Int.cast_natCast]
  rw [hcast] at hstart hwidth ⊢
  rw [hw] at hpos hmax hstart ⊢
  have hquotient : |d / w| ≤ 2 ^ 52 := by
    have hone : (1 : ℚ) ≤ w := by exact_mod_cast hpos
    rw [abs_div, Nat.abs_cast]
    exact (div_le_self (abs_nonneg d) hone).trans hd.abs_le
  obtain ⟨z, hz, hfloor⟩ := ht.floor_div hwidth hd (by omega) (by omega)
  have hbound := natAbs_floor_le hquotient
  have hfloored := hz.floor (by rw [hfloor]; omega)
  rw [hfloor] at hfloored
  -- from here on the quotient is any integer whose product with the interval is small
  generalize ⌊d / w⌋ = k at hstart hbound hfloored ⊢
  have hvalue : ((w * k : ℤ) : ℚ) = (k : ℚ) * w := by
    push_cast
    ring
  have hrep : Representable |(k : ℚ) * w| := by
    rw [← hvalue, ← Int.cast_abs, Int.abs_eq_natAbs, Int.cast_natCast]
    exact representable_nat (by omega)
  have hproduct := hfloored.mul hwidth (inDomain_intCast hbound)
    (inDomain_intCast (z := w) (by omega)) hrep
  rw [← hvalue] at hproduct
  exact hproduct.toInt_toInt64 (by omega)

/-- The exact time that a plan finds in a document; nothing if it is not a number. -/
def exactTime? (e : PlanExprs) (doc : Json) : Option ℚ :=
  match e.date.eval [("doc", doc)] with
  | .num n => n.value?
  | _ => none

/-- Whether a document belongs to a plan: its time is a number whose whole part lies in the range,
and the filter is absent or holds. -/
def Belongs (p : Plan) (e : PlanExprs) (doc : Json) : Prop :=
  (∃ d ∈ exactTime? e doc, p.range.start.toInt ≤ ⌊d⌋ ∧ ⌊d⌋ < p.range.stop.toInt) ∧
    ∀ f ∈ e.filter, (f.eval [("doc", doc)]).truthy = true

instance (p : Plan) (e : PlanExprs) (doc : Json) : Decidable (Belongs p e doc) :=
  inferInstanceAs (Decidable (_ ∧ _))

/-- Whether the time of a document lies in the bucket of a plan that starts at `b`. -/
def InBucket (p : Plan) (e : PlanExprs) (b : ℤ) (doc : Json) : Prop :=
  ∃ d ∈ exactTime? e doc, (b : ℚ) ≤ d ∧ d < (b : ℚ) + p.interval.toInt

instance (p : Plan) (e : PlanExprs) (b : ℤ) (doc : Json) : Decidable (InBucket p e b doc) :=
  inferInstanceAs (Decidable (∃ d ∈ exactTime? e doc, _))

/-- The documents that belong to a plan, in their order. -/
def members (p : Plan) (e : PlanExprs) (docs : List Json) : List Json :=
  docs.filter fun doc => Belongs p e doc

/-- The values of the documents of a plan in the bucket that starts at `b`, in their order. -/
def bucketValues (p : Plan) (e : PlanExprs) (docs : List Json) (b : ℤ) : List Json :=
  ((members p e docs).filter fun doc => InBucket p e b doc).map fun doc =>
    e.value.eval [("doc", doc)]

/-- The members of a plan are the documents that belong to it. -/
theorem mem_members {p : Plan} {e : PlanExprs} {docs : List Json} {doc : Json} :
    doc ∈ members p e docs ↔ doc ∈ docs ∧ Belongs p e doc := by
  rw [members, List.mem_filter, decide_eq_true_iff]

/-- The store selects a document exactly if the document belongs to the plan, and then with a double
that has its time. -/
inductive Agrees (p : Plan) (e : PlanExprs) (doc : Json) : Prop where
  /-- A document that does not belong to the plan. -/
  | outside (hout : ¬Belongs p e doc) (hselect : select? p e doc = none)
  /-- A document that belongs to the plan. -/
  | inside {d : ℚ} {time : Float} (hin : Belongs p e doc) (htime : exactTime? e doc = some d)
      (hd : InDomain d) (hvalue : HasValue time d)
      (hselect : select? p e doc =
        some ⟨time, e.date.eval [("doc", doc)], e.value.eval [("doc", doc)]⟩)

variable {p : Plan} {e : PlanExprs} {doc : Json} {docs : List Json} {d : ℚ}

/-- The store compares the whole part of a time with the range. -/
theorem contains_iff {time : Float} (h : HasValue time d) (hd : InDomain d) (r : TimeRange) :
    r.contains (toInt64 (Binary64.floor time)) = true ↔
      r.start.toInt ≤ ⌊d⌋ ∧ ⌊d⌋ < r.stop.toInt := by
  have hbound := natAbs_floor_le hd.abs_le
  have hfloor := (h.floor (by omega)).toInt_toInt64 (by omega)
  rw [TimeRange.contains, Bool.and_eq_true, decide_eq_true_iff, decide_eq_true_iff,
    Int64.le_iff_toInt_le, Int64.lt_iff_toInt_lt, hfloor]

/-- Whether the filter of a plan is absent or holds. -/
def filterHolds (e : PlanExprs) (doc : Json) : Bool :=
  match e.filter with
  | some f => (f.eval [("doc", doc)]).truthy
  | none => true

/-- An absent filter holds, and any other one where its value counts as true. -/
theorem filterHolds_iff :
    filterHolds e doc = true ↔ ∀ f ∈ e.filter, (f.eval [("doc", doc)]).truthy = true := by
  rw [filterHolds]
  cases e.filter with
  | none => simp
  | some f => simp

/-- What the store takes of a document whose time is a number. -/
theorem select?_of_num {n : Number} (h : e.date.eval [("doc", doc)] = .num n) :
    select? p e doc =
      if p.range.contains (toInt64 (Binary64.floor n.toFloat)) && filterHolds e doc then
        some ⟨n.toFloat, e.date.eval [("doc", doc)], e.value.eval [("doc", doc)]⟩
      else none := by
  rw [select?]
  simp only [h]
  rfl

/-- An exact time is the value of a number. -/
theorem exists_num_of_exactTime? (h : exactTime? e doc = some d) :
    ∃ n, e.date.eval [("doc", doc)] = .num n ∧ n.value? = some d := by
  rw [exactTime?] at h
  cases hdate : e.date.eval [("doc", doc)] with
  | num n =>
      rw [hdate] at h
      exact ⟨n, rfl, h⟩
  | _ => simp [hdate] at h

/-- A document whose time is in the domain is selected exactly if it belongs to the plan. -/
theorem agrees_of_inDomain (htime : exactTime? e doc = some d) (hd : InDomain d) :
    Agrees p e doc := by
  obtain ⟨n, hdate, hn⟩ := exists_num_of_exactTime? htime
  have hvalue := Number.hasValue_toFloat hn hd
  have hselect := select?_of_num (p := p) hdate
  have hbelongs : Belongs p e doc ↔
      (p.range.contains (toInt64 (Binary64.floor n.toFloat)) && filterHolds e doc) = true := by
    rw [Bool.and_eq_true, filterHolds_iff, contains_iff hvalue hd, Belongs, htime]
    simp
  by_cases hin : Belongs p e doc
  · rw [if_pos (hbelongs.1 hin)] at hselect
    exact .inside hin htime hd hvalue hselect
  · rw [if_neg (mt hbelongs.2 hin)] at hselect
    exact .outside hin hselect

/-- The times of a bucket that starts at a multiple of the interval. -/
theorem inBucket_iff (hpos : 1 ≤ p.interval.toInt) (htime : exactTime? e doc = some d) (k : ℤ) :
    InBucket p e (p.interval.toInt * k) doc ↔ ⌊d / p.interval.toInt⌋ = k := by
  rw [← mem_bucket_iff hpos, InBucket, htime]
  simp

/-- The selected documents with one start have the values of its bucket. -/
theorem values_selected (hagrees : ∀ doc ∈ docs, Agrees p e doc) (hpos : 1 ≤ p.interval.toInt)
    (hmax : p.interval.toInt ≤ 2 ^ 52) {start : Int64} {k : ℤ}
    (hstart : start.toInt = p.interval.toInt * k) :
    ((docs.filterMap (select? p e)).filter (bucketStart p.interval ·.time = start)).map
      Selected.value = bucketValues p e docs start.toInt := by
  unfold bucketValues members
  -- both sides go through the documents in the same order
  induction docs with
  | nil => rfl
  | cons doc docs ih =>
      have hrest := ih fun other hother => hagrees other (List.mem_cons_of_mem _ hother)
      cases hagrees doc List.mem_cons_self with
      | outside hout hselect =>
          have hmembers : (doc :: docs).filter (fun doc => Belongs p e doc) =
              docs.filter fun doc => Belongs p e doc :=
            List.filter_cons_of_neg (by simpa using hout)
          rw [List.filterMap_cons_none hselect, hmembers]
          exact hrest
      | @inside d time hin htime hd hvalue hselect =>
          have hsame : bucketStart p.interval time = start ↔ InBucket p e start.toInt doc := by
            rw [hstart, inBucket_iff hpos htime, ← Int64.toInt_inj, hstart,
              toInt_bucketStart hvalue hd hpos hmax]
            exact Int.mul_eq_mul_left_iff (by omega)
          have hmembers : (doc :: docs).filter (fun doc => Belongs p e doc) =
              doc :: docs.filter fun doc => Belongs p e doc :=
            List.filter_cons_of_pos (by simpa using hin)
          rw [List.filterMap_cons_some hselect, hmembers]
          by_cases hmember : InBucket p e start.toInt doc
          · rw [List.filter_cons_of_pos (by simpa using hsame.2 hmember), List.map_cons, hrest,
              List.filter_cons_of_pos (by simpa using hmember), List.map_cons]
          · rw [List.filter_cons_of_neg (by simpa using mt hsame.1 hmember), hrest,
              List.filter_cons_of_neg (by simpa using hmember)]

/-- The starts of the selected documents are those of the documents that belong to the plan. -/
theorem mem_starts_selected (hagrees : ∀ doc ∈ docs, Agrees p e doc)
    (hpos : 1 ≤ p.interval.toInt) (hmax : p.interval.toInt ≤ 2 ^ 52) (b : ℤ) :
    (∃ x ∈ docs.filterMap (select? p e), (bucketStart p.interval x.time).toInt = b) ↔
      ∃ doc ∈ members p e docs, ∃ d ∈ exactTime? e doc,
        b = p.interval.toInt * ⌊d / p.interval.toInt⌋ := by
  constructor
  · rintro ⟨x, hx, rfl⟩
    obtain ⟨doc, hdoc, hselected⟩ := List.mem_filterMap.1 hx
    cases hagrees doc hdoc with
    | outside hout hselect => simp [hselect] at hselected
    | @inside d time hin htime hd hvalue hselect =>
        obtain rfl := Option.some.inj (hselect.symm.trans hselected)
        refine ⟨doc, mem_members.2 ⟨hdoc, hin⟩, d, htime, ?_⟩
        exact toInt_bucketStart hvalue hd hpos hmax
  · rintro ⟨doc, hmember, d', htime', rfl⟩
    obtain ⟨hdoc, hbelongs⟩ := mem_members.1 hmember
    cases hagrees doc hdoc with
    | outside hout hselect => exact absurd hbelongs hout
    | @inside d time hin htime hd hvalue hselect =>
        obtain rfl : d = d' := Option.some.inj (htime.symm.trans htime')
        refine ⟨_, List.mem_filterMap.2 ⟨doc, hdoc, hselect⟩, ?_⟩
        exact toInt_bucketStart hvalue hd hpos hmax

/-- The rows that a grouped plan means: one for each bucket of its documents. -/
structure GroupedRows (p : Plan) (e : PlanExprs) (docs : List Json) (starts : List ℤ)
    (rows : List Json) : Prop where
  /-- The starts of the buckets ascend. -/
  ascending : starts.Pairwise (· < ·)
  /-- The starts are the multiples of the interval below the times of the documents. -/
  mem_starts : ∀ b, b ∈ starts ↔ ∃ doc ∈ members p e docs, ∃ d ∈ exactTime? e doc,
    b = p.interval.toInt * ⌊d / p.interval.toInt⌋
  /-- A row has the aggregation of the values in a bucket, and the start of the bucket. -/
  rows_eq : rows = starts.map fun b =>
    .arr [p.aggregation.apply (bucketValues p e docs b), .num (.int b)]
  /-- Every document of the plan is in one bucket. -/
  one_bucket : ∀ doc ∈ members p e docs, ∃! b, b ∈ starts ∧ InBucket p e b doc

/-- The store runs a grouped plan to the rows that the plan means, where it agrees with the plan on
every document. -/
theorem execute_of_agrees {s : MemoryStore} {p : Plan} {e : PlanExprs} {docs : List Json}
    (hexprs : PlanExprs.ofPlan p = .ok e)
    (hdocs : Dict.get? s.collections p.collection = some docs) (hgrouped : p.isGrouped = true)
    (hpos : 1 ≤ p.interval.toInt) (hmax : p.interval.toInt ≤ 2 ^ 52)
    (hdomain : ∀ doc ∈ docs, Belongs p e doc → ∃ d ∈ exactTime? e doc, InDomain d)
    (hagrees : ∀ doc ∈ docs, Agrees p e doc) :
    ∃ starts rows, s.execute p = .ok rows ∧ GroupedRows p e docs starts rows := by
  have hexecute : s.execute p = .ok (rows p (docs.filterMap (select? p e))) := by
    rw [execute, hexprs]
    simp only [hdocs]
  have hcollects := collects_buckets p.interval (docs.filterMap (select? p e))
  have hstarts : ∀ b, b ∈ (buckets p.interval (docs.filterMap (select? p e))).map (·.1.toInt) ↔
      ∃ doc ∈ members p e docs, ∃ d ∈ exactTime? e doc,
        b = p.interval.toInt * ⌊d / p.interval.toInt⌋ := by
    intro b
    rw [← mem_starts_selected hagrees hpos hmax]
    exact hcollects.mem_map_toInt b
  refine ⟨_, _, hexecute, ?_, hstarts, ?_, ?_⟩
  · rw [List.pairwise_map]
    exact hcollects.ascending.imp Int64.lt_iff_toInt_lt.1
  · rw [rows, if_pos hgrouped, List.map_map]
    refine List.map_congr_left ?_
    intro bucket hbucket
    obtain ⟨doc, hmember, d, htime, hstart⟩ := (hstarts _).1 (List.mem_map_of_mem hbucket)
    have hvalues := (hcollects.values bucket hbucket).trans
      (values_selected hagrees hpos hmax hstart)
    obtain ⟨hdoc, hin⟩ := mem_members.1 hmember
    obtain ⟨d', htime', hd⟩ := hdomain doc hdoc hin
    obtain rfl : d' = d := Option.some.inj (htime'.symm.trans htime)
    -- a start of 53 bits is the same number as a double
    have hbound := natAbs_bucket_lt hpos hmax hd.abs_le
    rw [← hstart] at hbound
    show Json.arr [_, Json.ofFloat (Float.ofInt bucket.1.toInt)] = _
    rw [(hasValue_ofInt hbound).ofFloat_eq hbound, hvalues]
    rfl
  · intro doc hmember
    obtain ⟨d, htime, -⟩ := (mem_members.1 hmember).2.1
    refine ⟨p.interval.toInt * ⌊d / p.interval.toInt⌋,
      ⟨(hstarts _).2 ⟨doc, hmember, d, htime, rfl⟩, (inBucket_iff hpos htime _).2 rfl⟩, ?_⟩
    rintro b ⟨hb, hin⟩
    -- starts are multiples of the interval, so that two buckets share no time
    obtain ⟨_, _, d', _, rfl⟩ := (hstarts b).1 hb
    rw [inBucket_iff hpos htime] at hin
    rw [hin]

/-- A document with a time and a value. -/
def timedDoc (time : Number) (value : ℤ) : Json :=
  .obj [("t", .num time), ("v", .num (.int value))]

/-- Documents around time zero, one of them at a fraction. -/
def unalignedDocs : List Json :=
  [timedDoc (.float (Float.ofBits 0xC004000000000000)) 1, timedDoc (.int 3) 2,
    timedDoc (.int (-1)) 3, timedDoc (.int 4) 4]

/-- A grouped plan whose range does not start at a multiple of its interval. -/
def unalignedPlan : Plan where
  target := "load"
  collection := "load"
  filter := some "doc.v"
  date := .expression "doc.t"
  value := .expression "doc.v"
  aggregation := .sum
  interval := 2
  range := ⟨-3, 4⟩
  shape := .series
  dateName := "time"
  valueName := "value"
  displayName := none

/-- The expressions of the plan with the unaligned range. -/
def unalignedExprs : PlanExprs where
  date := .path "doc" [.key "t"]
  value := .path "doc" [.key "v"]
  filter := some (.path "doc" [.key "v"])

/-- The texts of the plan with the unaligned range are read. -/
theorem ofPlan_unaligned : PlanExprs.ofPlan unalignedPlan = .ok unalignedExprs := by
  have hdate : Expr.parse "doc.t" = .ok (.path "doc" [.key "t"]) := by cbv
  have hvalue : Expr.parse "doc.v" = .ok (.path "doc" [.key "v"]) := by cbv
  have hfilter : (some "doc.v").mapM Expr.parse = .ok (some (.path "doc" [.key "v"])) := by
    simp only [Option.mapM, hvalue]
    rfl
  simp only [PlanExprs.ofPlan, unalignedPlan, Source.toExpression, hdate, hvalue, hfilter]
  rfl

end MemoryStore

end SeriesQuery
