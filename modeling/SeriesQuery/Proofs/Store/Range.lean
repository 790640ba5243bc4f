import SeriesQuery.Proofs.Number.Integers
import SeriesQuery.Proofs.Store.Shapes

/-!
# Times in a range

The store compares the whole parts of doubles with the bounds of a range. A time that is a double is
compared exactly, but the least 64-bit integer is no lower bound for it. A time that is an integer
is rounded to a double first, which may move it over a bound that has more than 53 bits, and over no
other one (`execute_range`).
-/

namespace SeriesQuery

open Binary64

/-- A number of the data format has an exact value. -/
theorem Number.exists_value? {n : Number} (h : n.Valid) : ∃ d, n.value? = some d := by
  cases n with
  | int z => exact ⟨z, rfl⟩
  | float x => exact Number.exists_rounded? h

namespace TimeRange

/-- Whether an exact time lies in a range. -/
def Holds (r : TimeRange) (d : ℚ) : Prop := (r.start.toInt : ℚ) ≤ d ∧ d < r.stop.toInt

/-- Whether the store finds the exact value of a double in a range: the least 64-bit integer bounds
nothing. -/
def Finds (r : TimeRange) (v : ℚ) : Prop :=
  (r.start = Int64.minValue ∨ (r.start.toInt : ℚ) ≤ v) ∧ v < r.stop.toInt

instance (r : TimeRange) (v : ℚ) : Decidable (r.Finds v) := inferInstanceAs (Decidable (_ ∧ _))

variable {r : TimeRange} {v : ℚ}

/-- A whole part that is clamped to 64 bits is found where the time is. -/
theorem contains_clamp_iff (hr : r.start < r.stop) :
    r.contains (clamp ⌊v⌋) = true ↔ r.Finds v := by
  have hmin : Int64.minValue.toInt = -2 ^ 63 := rfl
  have hstart := Int64.le_toInt r.start
  have hstop := Int64.toInt_lt r.stop
  rw [Int64.lt_iff_toInt_lt] at hr
  rw [contains, Bool.and_eq_true, decide_eq_true_iff, decide_eq_true_iff, Int64.le_iff_toInt_le,
    Int64.lt_iff_toInt_lt, toInt_clamp_eq, Finds, ← Int.le_floor, ← Int.floor_lt, ← Int64.toInt_inj,
    hmin]
  omega

/-- A range finds what it holds, if it starts behind the least 64-bit integer or nothing lies below
that. -/
theorem finds_iff (hleast : r.start = Int64.minValue → -2 ^ 63 ≤ v) : r.Finds v ↔ r.Holds v := by
  by_cases hmin : r.start = Int64.minValue
  · have hstart : (r.start.toInt : ℚ) ≤ v := by
      rw [hmin, show Int64.minValue.toInt = -2 ^ 63 from rfl]
      exact_mod_cast hleast hmin
    simp only [Finds, Holds, hstart, or_true]
  · rw [Finds, Holds, or_iff_right hmin]

/-- A range with small bounds finds the nearest double of a number where it holds the number. -/
theorem finds_rounded_iff {n : Number} {d : ℚ} (hstart : r.start.toInt.natAbs < 2 ^ 53)
    (hstop : r.stop.toInt.natAbs < 2 ^ 53) (hv : n.rounded? = some v) (hd : n.value? = some d) :
    r.Finds v ↔ r.Holds d := by
  have hmin : r.start ≠ Int64.minValue := by
    intro h
    rw [h] at hstart
    exact absurd hstart (by decide)
  rw [finds_iff fun h => absurd h hmin]
  cases n with
  | int z =>
      obtain rfl : (nearest z : ℚ) = v := Option.some.inj hv
      obtain rfl : (z : ℚ) = d := Option.some.inj hd
      rw [Holds, Holds, ← not_le, ← not_le]
      norm_cast
      rw [le_nearest_iff hstart, le_nearest_iff hstop]
  | float x =>
      obtain rfl : v = d := Option.some.inj (hv.symm.trans hd)
      exact Iff.rfl

end TimeRange

namespace MemoryStore

variable {p : Plan} {e : PlanExprs} {doc : Json} {docs : List Json}

/-- The time that a plan finds in a document as the store computes with it; nothing if it is not a
number. -/
def roundedTime? (e : PlanExprs) (doc : Json) : Option ℚ :=
  match dateOf e doc with
  | .num n => n.rounded?
  | _ => none

/-- Whether the time of a document passes the range test of a plan. -/
def Passes (p : Plan) (e : PlanExprs) (doc : Json) : Prop :=
  ∃ v ∈ roundedTime? e doc, p.range.Finds v

instance (p : Plan) (e : PlanExprs) (doc : Json) : Decidable (Passes p e doc) :=
  inferInstanceAs (Decidable (∃ v ∈ roundedTime? e doc, _))

/-- Whether the exact time of a document lies in the range of a plan. -/
def InRange (p : Plan) (e : PlanExprs) (doc : Json) : Prop :=
  ∃ d ∈ exactTime? e doc, p.range.Holds d

/-- A document whose time is a number passes if the range finds the nearest double of it, and is in
the range if the range holds it. -/
theorem passes_of_num {n : Number} (h : dateOf e doc = .num n) :
    (Passes p e doc ↔ ∃ v ∈ n.rounded?, p.range.Finds v) ∧
      (InRange p e doc ↔ ∃ d ∈ n.value?, p.range.Holds d) := by
  have hexact : exactTime? e doc = n.value? := by
    unfold dateOf at h
    rw [exactTime?, h]
  rw [Passes, InRange, roundedTime?, hexact, h]
  exact ⟨Iff.rfl, Iff.rfl⟩

/-- A document whose time is no number neither passes nor is in the range. -/
theorem not_passes (h : ∀ n, dateOf e doc ≠ .num n) : ¬Passes p e doc ∧ ¬InRange p e doc := by
  constructor
  · rintro ⟨v, hv, -⟩
    rw [roundedTime?] at hv
    split at hv
    · next n hdate => exact h n hdate
    · cases hv
  · rintro ⟨d, hd, -⟩
    obtain ⟨n, hdate, -⟩ := exists_num_of_exactTime? hd
    exact h n hdate

/-- The store selects the documents that pass the range test and the filter. -/
theorem selects_iff (hr : p.range.start < p.range.stop)
    (hvalid : ∀ n, dateOf e doc = .num n → n.Valid) :
    selects p e doc = (decide (Passes p e doc) && filterHolds e doc) := by
  by_cases hdate : ∃ n, dateOf e doc = .num n
  · obtain ⟨n, hdate⟩ := hdate
    obtain ⟨v, hv⟩ := n.exists_rounded? (hvalid n hdate)
    have hfloor := toInt64_floor ((n.value?_toFloat (hvalid n hdate)).trans hv)
    have hpasses : p.range.contains (clamp ⌊v⌋) = decide (Passes p e doc) := by
      rw [Bool.eq_iff_iff, TimeRange.contains_clamp_iff hr, decide_eq_true_iff,
        (passes_of_num hdate).1, hv]
      simp
    rw [selects_of_num hdate, hfloor, hpasses]
  · have hnone : selects p e doc = false := by
      by_contra h
      exact hdate (exists_num_of_selects (Bool.eq_true_of_not_eq_false h))
    rw [hnone, decide_eq_false (not_passes (not_exists.1 hdate)).1, Bool.false_and]

/-- The range test is exact where the bounds are below `2 ^ 53` in magnitude. -/
theorem passes_iff_of_small (hstart : p.range.start.toInt.natAbs < 2 ^ 53)
    (hstop : p.range.stop.toInt.natAbs < 2 ^ 53) (hvalid : ∀ n, dateOf e doc = .num n → n.Valid) :
    Passes p e doc ↔ InRange p e doc := by
  by_cases hdate : ∃ n, dateOf e doc = .num n
  · obtain ⟨n, hdate⟩ := hdate
    obtain ⟨v, hv⟩ := n.exists_rounded? (hvalid n hdate)
    obtain ⟨d, hd⟩ := n.exists_value? (hvalid n hdate)
    obtain ⟨hpasses, hin⟩ := passes_of_num (p := p) hdate
    rw [hpasses, hin, hv, hd]
    simpa using TimeRange.finds_rounded_iff hstart hstop hv hd
  · obtain ⟨hpasses, hin⟩ := not_passes (p := p) (not_exists.1 hdate)
    exact iff_of_false hpasses hin

/-- The range test is exact for a time that is a double, if the range starts behind the least 64-bit
integer or the time is not below that. -/
theorem passes_iff_of_double (hdouble : roundedTime? e doc = exactTime? e doc)
    (hleast : p.range.start = Int64.minValue → ∀ d ∈ exactTime? e doc, -2 ^ 63 ≤ d) :
    Passes p e doc ↔ InRange p e doc := by
  rw [Passes, InRange, hdouble]
  refine exists_congr fun d => and_congr_right fun hd => ?_
  exact TimeRange.finds_iff fun hmin => hleast hmin d hd

/-- The store selects the documents that pass the range test of a plan and its filter. The test is
exact if the bounds are below `2 ^ 53` in magnitude, and for each time that is a double it is exact
if the range starts behind the least 64-bit integer. What is no number does not pass. -/
theorem execute_range {s : MemoryStore} (hexprs : PlanExprs.ofPlan p = .ok e)
    (hdocs : Dict.get? s.collections p.collection = some docs)
    (hrange : TimeRange.ofBounds? p.range.start p.range.stop = some p.range)
    (hvalid : ∀ doc ∈ docs, ∀ n, dateOf e doc = .num n → n.Valid) :
    s.execute p = .ok (rows p
      ((docs.filter fun doc => Passes p e doc && filterHolds e doc).map (taken e))) ∧
    (p.range.start.toInt.natAbs < 2 ^ 53 → p.range.stop.toInt.natAbs < 2 ^ 53 →
      ∀ doc ∈ docs, (Passes p e doc ↔ InRange p e doc)) ∧
    (p.range.start ≠ Int64.minValue →
      ∀ doc, roundedTime? e doc = exactTime? e doc → (Passes p e doc ↔ InRange p e doc)) ∧
    ∀ doc, (∀ n, dateOf e doc ≠ .num n) → ¬Passes p e doc := by
  have hr : p.range.start < p.range.stop := by
    rw [TimeRange.ofBounds?] at hrange
    by_contra hlt
    rw [if_neg hlt] at hrange
    cases hrange
  refine ⟨?_, ?_, ?_, ?_⟩
  · have hselected : selected p e docs =
        docs.filter fun doc => Passes p e doc && filterHolds e doc :=
      List.filter_congr fun doc hdoc => selects_iff hr (hvalid doc hdoc)
    rw [execute_eq hexprs hdocs, hselected]
  · intro hstart hstop doc hdoc
    exact passes_iff_of_small hstart hstop (hvalid doc hdoc)
  · intro hmin doc hdouble
    exact passes_iff_of_double hdouble fun h => absurd h hmin
  · intro doc hdate
    exact (not_passes hdate).1

/-- The test is exact for documents with whole times, a fraction, and a text as the time. -/
theorem execute_range_tied :
    execute ⟨[("load", tiedDocs)], []⟩ unalignedPlan = .ok (rows unalignedPlan
      ((tiedDocs.filter fun doc => Passes unalignedPlan unalignedExprs doc &&
        filterHolds unalignedExprs doc).map (taken unalignedExprs))) ∧
    ∀ doc ∈ tiedDocs,
      (Passes unalignedPlan unalignedExprs doc ↔ InRange unalignedPlan unalignedExprs doc) := by
  have hvalid : ∀ doc ∈ tiedDocs, ∀ n, dateOf unalignedExprs doc = .num n → n.Valid := by
    intro doc hdoc n hdate
    simp only [tiedDocs, List.mem_cons, List.not_mem_nil, or_false] at hdoc
    rcases hdoc with rfl | rfl | rfl | rfl
    · obtain rfl : Number.float (Float.ofBits 0x4004000000000000) = n := Json.num.inj hdate
      rfl
    · obtain rfl : Number.int 1 = n := Json.num.inj hdate
      exact ⟨by decide, by decide⟩
    · have hdate : Json.str "soon" = .num n := hdate
      cases hdate
    · obtain rfl : Number.float (Float.ofBits 0x3FF0000000000000) = n := Json.num.inj hdate
      rfl
  obtain ⟨hexecute, hsmall, -, -⟩ :=
    execute_range (s := ⟨[("load", tiedDocs)], []⟩) ofPlan_unaligned rfl rfl hvalid
  exact ⟨hexecute, hsmall (by decide) (by decide)⟩

/-- A plan for the documents of one millisecond. -/
def instantPlan (start : Int64) : Plan := { unalignedPlan with range := ⟨start, start + 1⟩ }

/-- A document whose time needs 54 bits. -/
def oddDoc : Json := timedDoc (.int 9007199254740993) 1

/-- A document whose time is `-2 ^ 64`. -/
def earlyDoc : Json := timedDoc (.float (Float.ofBits 0xC3F0000000000000)) 1

/-- A time that needs 54 bits is missed in its own millisecond and is selected in the one before. A
time below all 64-bit integers is selected in the first millisecond of all. -/
theorem range_inexact :
    (InRange (instantPlan 9007199254740993) unalignedExprs oddDoc ∧
      selects (instantPlan 9007199254740993) unalignedExprs oddDoc = false) ∧
    (¬InRange (instantPlan 9007199254740992) unalignedExprs oddDoc ∧
      selects (instantPlan 9007199254740992) unalignedExprs oddDoc = true) ∧
    ¬InRange (instantPlan Int64.minValue) unalignedExprs earlyDoc ∧
      selects (instantPlan Int64.minValue) unalignedExprs earlyDoc = true := by
  have hodd : exactTime? unalignedExprs oddDoc = some ((9007199254740993 : ℤ) : ℚ) := rfl
  have hearly : exactTime? unalignedExprs earlyDoc =
      some (((-4503599627370496 : ℤ) : ℚ) * (2 : ℚ) ^ (12 : ℤ)) := rfl
  have hafter : (9007199254740993 : Int64).toInt = 9007199254740993 := by decide
  have hlast : (9007199254740993 + 1 : Int64).toInt = 9007199254740994 := by decide
  have hbefore : (9007199254740992 + 1 : Int64).toInt = 9007199254740993 := by decide
  have hleast : Int64.minValue.toInt = -9223372036854775808 := by decide
  refine ⟨⟨⟨_, hodd, ?_, ?_⟩, rfl⟩, ⟨?_, rfl⟩, ?_, rfl⟩
  · show ((9007199254740993 : Int64).toInt : ℚ) ≤ (9007199254740993 : ℤ)
    rw [hafter]
  · show ((9007199254740993 : ℤ) : ℚ) < (9007199254740993 + 1 : Int64).toInt
    rw [hlast]
    norm_num
  · rintro ⟨d, hd, -, hlt⟩
    obtain rfl := Option.some.inj (hodd.symm.trans hd)
    have hlt : ((9007199254740993 : ℤ) : ℚ) < (9007199254740992 + 1 : Int64).toInt := hlt
    rw [hbefore] at hlt
    exact lt_irrefl _ hlt
  · rintro ⟨d, hd, hle, -⟩
    obtain rfl := Option.some.inj (hearly.symm.trans hd)
    have hle : (Int64.minValue.toInt : ℚ) ≤ (-4503599627370496 : ℤ) * (2 : ℚ) ^ (12 : ℤ) := hle
    rw [hleast] at hle
    norm_num at hle

end MemoryStore

end SeriesQuery
