import SeriesQuery.Proofs.Store.Range

/-!
# Grouped plans and their ranges

The documents of a grouped plan are those whose exact time lies in its range, but the store selects
by doubles. Both are the same documents where the bounds of the range are below `2 ^ 53` in
magnitude, and also where every time is a double and none lies below a range that starts at the
least 64-bit integer; then the rows are those of the plan (`execute_grouped`).
-/

namespace SeriesQuery

open Binary64

namespace MemoryStore

variable {p : Plan} {e : PlanExprs} {doc : Json} {docs : List Json}

/-- The range test of a plan cannot be wrong on documents: its bounds are small, or every time is a
double, and not below the least 64-bit integer if the range starts there. -/
def TestsExactly (p : Plan) (e : PlanExprs) (docs : List Json) : Prop :=
  (p.range.start.toInt.natAbs < 2 ^ 53 ∧ p.range.stop.toInt.natAbs < 2 ^ 53) ∨
    ∀ doc ∈ docs, roundedTime? e doc = exactTime? e doc ∧
      (p.range.start = Int64.minValue → ∀ d ∈ exactTime? e doc, -2 ^ 63 ≤ d)

/-- Such a test is passed exactly by the documents whose exact time lies in the range. -/
theorem TestsExactly.passes_iff (h : TestsExactly p e docs)
    (hvalid : ∀ doc ∈ docs, ∀ n, dateOf e doc = .num n → n.Valid) (hdoc : doc ∈ docs) :
    Passes p e doc ↔ InRange p e doc := by
  rcases h with ⟨hstart, hstop⟩ | htimes
  · exact passes_iff_of_small hstart hstop (hvalid doc hdoc)
  · obtain ⟨hdouble, hleast⟩ := htimes doc hdoc
    exact passes_iff_of_double hdouble hleast

/-- A document belongs to a plan if its exact time lies in the range and the filter holds. -/
theorem belongs_iff : Belongs p e doc ↔ InRange p e doc ∧ filterHolds e doc = true := by
  rw [Belongs, InRange, filterHolds_iff]
  simp only [TimeRange.Holds, Int.le_floor, Int.floor_lt]

/-- A range that starts before it ends is needed for a document to be selected. -/
theorem start_lt_stop_of_selects (h : selects p e doc = true) : p.range.start < p.range.stop := by
  obtain ⟨n, hdate⟩ := exists_num_of_selects h
  rw [selects_of_num hdate, Bool.and_eq_true, TimeRange.contains, Bool.and_eq_true,
    decide_eq_true_iff, decide_eq_true_iff] at h
  exact Int64.lt_of_le_of_lt h.1.1 h.1.2

/-- The store selects no document that does not belong to the plan. -/
theorem belongs_of_selects (h : TestsExactly p e docs)
    (hvalid : ∀ doc ∈ docs, ∀ n, dateOf e doc = .num n → n.Valid) (hdoc : doc ∈ docs)
    (hselects : selects p e doc = true) : Belongs p e doc := by
  have hrange := start_lt_stop_of_selects hselects
  rw [selects_iff hrange (hvalid doc hdoc), Bool.and_eq_true, decide_eq_true_iff] at hselects
  exact belongs_iff.2 ⟨(h.passes_iff hvalid hdoc).1 hselects.1, hselects.2⟩

/-- The store runs a grouped plan to the rows that the plan means, where the times of all documents
that belong to the plan are in the domain and the range test cannot be wrong. -/
theorem execute_grouped {s : MemoryStore} (hexprs : PlanExprs.ofPlan p = .ok e)
    (hdocs : Dict.get? s.collections p.collection = some docs) (hgrouped : p.isGrouped = true)
    (hpos : 1 ≤ p.interval.toInt) (hmax : p.interval.toInt ≤ 2 ^ 52)
    (hvalid : ∀ doc ∈ docs, ∀ n, dateOf e doc = .num n → n.Valid)
    (hdomain : ∀ doc ∈ docs, Belongs p e doc → ∃ d ∈ exactTime? e doc, InDomain d)
    (htests : TestsExactly p e docs) :
    ∃ starts rows, s.execute p = .ok rows ∧ GroupedRows p e docs starts rows := by
  refine execute_of_agrees hexprs hdocs hgrouped hpos hmax hdomain fun doc hdoc => ?_
  by_cases hin : Belongs p e doc
  · obtain ⟨d, htime, hd⟩ := hdomain doc hdoc hin
    exact agrees_of_inDomain htime hd
  · refine .outside hin ?_
    rw [select?_eq, if_neg (mt (belongs_of_selects htests hvalid hdoc) hin)]

/-- Times below zero, and one that is not whole, are grouped. -/
theorem execute_unaligned :
    ∃ starts rows, execute ⟨[("load", unalignedDocs)], []⟩ unalignedPlan = .ok rows ∧
      GroupedRows unalignedPlan unalignedExprs unalignedDocs starts rows ∧
      rows = [.arr [.int 1, .int (-4)], .arr [.int 3, .int (-2)], .arr [.int 2, .int 2]] := by
  have hvalid : ∀ doc ∈ unalignedDocs, ∀ n, dateOf unalignedExprs doc = .num n → n.Valid := by
    have hfraction : (Number.float (Float.ofBits 0xC004000000000000)).Valid := rfl
    intro doc hdoc n hdate
    simp only [unalignedDocs, List.mem_cons, List.not_mem_nil, or_false] at hdoc
    rcases hdoc with rfl | rfl | rfl | rfl <;> cases hdate
    · exact hfraction
    · exact ⟨by decide, by decide⟩
    · exact ⟨by decide, by decide⟩
    · exact ⟨by decide, by decide⟩
  have hdomain : ∀ doc ∈ unalignedDocs, Belongs unalignedPlan unalignedExprs doc →
      ∃ d ∈ exactTime? unalignedExprs doc, InDomain d := by
    intro doc hdoc _
    simp only [unalignedDocs, List.mem_cons, List.not_mem_nil, or_false] at hdoc
    rcases hdoc with rfl | rfl | rfl | rfl
    · refine ⟨(-5629499534213120 : ℤ) * (2 : ℚ) ^ (-51 : ℤ), rfl, .inr ?_⟩
      norm_num [abs_of_neg]
    · exact ⟨(3 : ℤ), rfl, inDomain_intCast (by decide)⟩
    · exact ⟨(-1 : ℤ), rfl, inDomain_intCast (by decide)⟩
    · exact ⟨(4 : ℤ), rfl, inDomain_intCast (by decide)⟩
  obtain ⟨starts, rows, hexecute, hrows⟩ :=
    execute_grouped (s := ⟨[("load", unalignedDocs)], []⟩) ofPlan_unaligned rfl rfl (by decide)
      (by decide) hvalid hdomain (.inl ⟨by decide, by decide⟩)
  refine ⟨starts, rows, hexecute, hrows, ?_⟩
  rw [execute_eq (s := ⟨[("load", unalignedDocs)], []⟩) ofPlan_unaligned rfl] at hexecute
  exact (Except.ok.inj hexecute).symm

/-- A plan that no document belongs to means no rows. -/
theorem GroupedRows.eq_nil {starts : List ℤ} {rows : List Json}
    (h : GroupedRows p e docs starts rows) (hmembers : members p e docs = []) : rows = [] := by
  have hnone : starts = [] := by
    rw [List.eq_nil_iff_forall_not_mem]
    intro b hb
    obtain ⟨doc, hdoc, -⟩ := (h.mem_starts b).1 hb
    rw [hmembers] at hdoc
    cases hdoc
  rw [h.rows_eq, hnone, List.map_nil]

/-- A time that needs 54 bits is outside of the range that ends with it, and a time below all 64-bit
integers is outside of the range that starts with the least of them. Where such a document is the
only one, the plan means no row. But the first time is rounded into its range and the second one is
clamped into it, and there is a row. -/
theorem outside_grouped :
    PlanExprs.ofPlan (instantPlan 9007199254740992) = .ok unalignedExprs ∧
    members (instantPlan 9007199254740992) unalignedExprs [oddDoc] = [] ∧
    (∀ starts rows, GroupedRows (instantPlan 9007199254740992) unalignedExprs [oddDoc] starts rows →
      rows = []) ∧
    execute ⟨[("load", [oddDoc])], []⟩ (instantPlan 9007199254740992) =
      .ok [.arr [.int 1, .ofFloat (Float.ofInt 9007199254740992)]] ∧
    PlanExprs.ofPlan (instantPlan Int64.minValue) = .ok unalignedExprs ∧
    members (instantPlan Int64.minValue) unalignedExprs [earlyDoc] = [] ∧
    (∀ starts rows, GroupedRows (instantPlan Int64.minValue) unalignedExprs [earlyDoc] starts rows →
      rows = []) ∧
    execute ⟨[("load", [earlyDoc])], []⟩ (instantPlan Int64.minValue) =
      .ok [.arr [.int 1, .ofFloat (Float.ofInt (-2 ^ 63))]] := by
  have hodd : members (instantPlan 9007199254740992) unalignedExprs [oddDoc] = [] := by
    decide +kernel
  have hearly : members (instantPlan Int64.minValue) unalignedExprs [earlyDoc] = [] := by
    decide +kernel
  refine ⟨ofPlan_unaligned, hodd, fun _ _ h => h.eq_nil hodd, ?_, ofPlan_unaligned, hearly,
    fun _ _ h => h.eq_nil hearly, ?_⟩
  · exact execute_eq (s := ⟨[("load", [oddDoc])], []⟩) (p := instantPlan 9007199254740992)
      ofPlan_unaligned rfl
  · exact execute_eq (s := ⟨[("load", [earlyDoc])], []⟩) (p := instantPlan Int64.minValue)
      ofPlan_unaligned rfl

end MemoryStore

end SeriesQuery
