import SeriesQuery.Proofs.Catalog.Extremes
import SeriesQuery.Proofs.Expr.Comparison

/-!
# Integers in comparisons and extremes

Integers are compared as the doubles nearest to them, and the least and the greatest of them are
doubles that become integers again below `2 ^ 53`. Rounding keeps the order, so that comparisons are
those of the integers unless two different ones have one nearest double; and what is least or
greatest is rounded, but it is no other one (`integers_rounded`).
-/

namespace SeriesQuery

open Binary64

namespace Binary64

variable {a b z : ℤ}

/-- Whether two integers with one nearest double are one integer. -/
def KeptApart (a b : ℤ) : Prop := nearest a = nearest b → a = b

/-- An integer below `2 ^ 53` in magnitude is kept apart from all others. -/
theorem keptApart_of_small (h : a.natAbs < 2 ^ 53 ∨ b.natAbs < 2 ^ 53) : KeptApart a b := by
  intro hnearest
  by_contra hne
  rcases h with ha | hb
  · exact nearest_ne ha hne hnearest
  · exact nearest_ne hb (Ne.symm hne) hnearest.symm

/-- Integers that are kept apart are equal exactly if they are equal after rounding. -/
theorem KeptApart.nearest_inj (h : KeptApart a b) : nearest a = nearest b ↔ a = b :=
  ⟨h, congrArg nearest⟩

/-- Integers that are kept apart are rounded in their order. -/
theorem KeptApart.nearest_lt (h : KeptApart a b) : nearest a < nearest b ↔ a < b := by
  constructor
  · intro hlt
    by_contra hle
    exact absurd (nearest_mono (not_lt.1 hle)) (not_le.2 hlt)
  · intro hlt
    exact lt_of_le_of_ne (nearest_mono hlt.le) (mt h.nearest_inj.1 hlt.ne)

/-- Being kept apart does not depend on the order of two integers. -/
theorem KeptApart.symm (h : KeptApart a b) : KeptApart b a := fun hnearest => (h hnearest.symm).symm

/-- Rounding takes no integer of `2 ^ 53` or more in magnitude below that. -/
theorem le_abs_nearest (hz : ¬z.natAbs < 2 ^ 53) : (2 : ℚ) ^ 53 ≤ |(nearest z : ℚ)| := by
  have hlarge := le_nearestNat (not_lt.1 hz)
  have habs : (2 : ℤ) ^ 53 ≤ |nearest z| := by
    rw [Int.abs_eq_natAbs, nearest]
    split_ifs <;> omega
  exact_mod_cast habs

/-- Rounding keeps the doubles of integers in order. -/
theorem extended_ofInt_le (ha : a.natAbs < 2 ^ 64) (hb : b.natAbs < 2 ^ 64) (h : a ≤ b) :
    extended (Float.ofInt a) ≤ extended (Float.ofInt b) := by
  rw [extended_ofInt ha, extended_ofInt hb]
  exact_mod_cast nearest_mono h

end Binary64

/-- An integer of the data format has 64 bits. -/
theorem Number.Valid.natAbs_lt {z : ℤ} (h : (Number.int z).Valid) : z.natAbs < 2 ^ 64 := by
  obtain ⟨hlow, hhigh⟩ := h
  have hmin : Int64.minValue.toInt = -2 ^ 63 := rfl
  have hsize : (UInt64.size : ℤ) = 2 ^ 64 := rfl
  omega

section Pairs

variable {a b : ℤ} (ha : (Number.int a).Valid) (hb : (Number.int b).Valid)

include ha hb

/-- Integers are equal if they have one nearest double. -/
theorem Json.equal_int : equal (.int a) (.int b) = decide (nearest a = nearest b) := by
  rw [Bool.eq_iff_iff, decide_eq_true_iff]
  refine (Number.toFloat_beq_iff ha hb).trans ?_
  show some (nearest a : ℚ) = some (nearest b : ℚ) ↔ _
  rw [Option.some_inj]
  exact Int.cast_inj

/-- Integers are ordered as the doubles nearest to them. -/
theorem Json.order_int : order (.int a) (.int b) = compare (nearest a) (nearest b) := by
  have hcast : StrictMono fun z : ℤ => (z : ℚ) := Int.cast_strictMono
  show compareFloats (Float.ofInt a) (Float.ofInt b) = _
  rw [compareFloats_eq_compare (not_isNaN_ofInt a) (not_isNaN_ofInt b), extended_ofInt ha.natAbs_lt,
    extended_ofInt hb.natAbs_lt, compare_coe, ← cmp_eq_compare, ← cmp_eq_compare]
  exact hcast.cmp_map_eq _ _

end Pairs

namespace Operator

/-- The test of two integers that an operator stands for. -/
def integerTest? : Operator → Option (ℤ → ℤ → Bool)
  | eq => some fun a b => decide (a = b)
  | ne => some fun a b => !decide (a = b)
  | lt => some fun a b => decide (a < b)
  | le => some fun a b => !decide (b < a)
  | gt => some fun a b => decide (b < a)
  | ge => some fun a b => !decide (a < b)
  | _ => none

variable {op : Operator} {test : ℤ → ℤ → Bool} {a b : ℤ}

/-- A comparison of integers tests the doubles nearest to them. -/
theorem apply_int (htest : op.integerTest? = some test) (ha : (Number.int a).Valid)
    (hb : (Number.int b).Valid) :
    op.apply (.int a) (.int b) = .bool (test (nearest a) (nearest b)) := by
  have hequal := Json.equal_int ha hb
  have hlt : (Json.order (.int a) (.int b) == .lt) = decide (nearest a < nearest b) := by
    rw [Json.order_int ha hb, Bool.eq_iff_iff, beq_iff_eq, compare_lt_iff_lt, decide_eq_true_iff]
  have hgt : (Json.order (.int a) (.int b) == .gt) = decide (nearest b < nearest a) := by
    rw [Json.order_int ha hb, Bool.eq_iff_iff, beq_iff_eq, compare_gt_iff_gt, decide_eq_true_iff]
  cases op with
  | eq =>
      obtain rfl := Option.some.inj htest
      exact congrArg Json.bool hequal
  | ne =>
      obtain rfl := Option.some.inj htest
      exact congrArg (fun found => Json.bool !found) hequal
  | lt =>
      obtain rfl := Option.some.inj htest
      exact congrArg Json.bool hlt
  | le =>
      obtain rfl := Option.some.inj htest
      exact congrArg (fun found => Json.bool !found) hgt
  | gt =>
      obtain rfl := Option.some.inj htest
      exact congrArg Json.bool hgt
  | ge =>
      obtain rfl := Option.some.inj htest
      exact congrArg (fun found => Json.bool !found) hlt
  | _ => cases htest

/-- Rounding does not change a test of integers that are kept apart. -/
theorem test_nearest (htest : op.integerTest? = some test) (h : KeptApart a b) :
    test (nearest a) (nearest b) = test a b := by
  cases op with
  | eq | ne | lt | le | gt | ge =>
      obtain rfl := Option.some.inj htest
      simp only [h.nearest_inj, h.nearest_lt, h.symm.nearest_lt]
  | _ => cases htest

/-- An integer is looked for among integers by the doubles nearest to them. -/
theorem apply_isIn_int {items : List ℤ} (ha : (Number.int a).Valid)
    (hitems : ∀ b ∈ items, (Number.int b).Valid) :
    isIn.apply (.int a) (.arr (items.map Json.int)) =
      .bool (decide (nearest a ∈ items.map nearest)) := by
  have hany : (items.map Json.int).any (Json.int a).equal =
      decide (nearest a ∈ items.map nearest) := by
    rw [Bool.eq_iff_iff, decide_eq_true_iff, List.any_map, List.any_eq_true, List.mem_map]
    refine exists_congr fun b => and_congr_right fun hb => ?_
    show (Json.int a).equal (.int b) = true ↔ _
    rw [Json.equal_int ha (hitems b hb), decide_eq_true_iff, eq_comm]
  exact congrArg Json.bool hany

/-- An integer that is kept apart from all of some integers is among them exactly if it is after
rounding. -/
theorem mem_map_nearest {items : List ℤ} (h : ∀ b ∈ items, KeptApart a b) :
    nearest a ∈ items.map nearest ↔ a ∈ items := by
  constructor
  · intro hmem
    obtain ⟨b, hb, hnearest⟩ := List.mem_map.1 hmem
    rw [h b hb hnearest.symm]
    exact hb
  · exact List.mem_map_of_mem

end Operator

/-! ### Extremes -/

/-- What is computed for an integer: the integer itself below `2 ^ 53` in magnitude, and else the
double nearest to it. -/
def Json.Computed (z : ℤ) (v : Json) : Prop :=
  if z.natAbs < 2 ^ 53 then v = .int z
  else ∃ x, v = .num (.float x) ∧ value? x = some (nearest z : ℚ)

/-- The double of an integer becomes what is computed for the integer. -/
theorem Json.computed_ofFloat {z : ℤ} (hz : z.natAbs < 2 ^ 64) :
    Computed z (.ofFloat (Float.ofInt z)) := by
  have hvalue := hasValue_ofInt_nearest hz
  rw [Computed]
  by_cases hsmall : z.natAbs < 2 ^ 53
  · rw [if_pos hsmall]
    exact (hasValue_ofInt hsmall).ofFloat_eq hsmall
  · rw [if_neg hsmall]
    exact ⟨_, hvalue.ofFloat_eq_float (le_abs_nearest hsmall), hvalue.value?_eq⟩

namespace Aggregation

variable {items : List ℤ} {z : ℤ}

/-- The numbers among integers are their doubles. -/
theorem numbers_int (items : List ℤ) : numbers (items.map Json.int) = items.map Float.ofInt := by
  rw [numbers, List.filterMap_map, ← List.filterMap_eq_map]
  rfl

/-- Integers are finite values. -/
theorem finite_int (items : List ℤ) : ∀ v ∈ items.map Json.int, v.Finite := by
  intro v hv
  obtain ⟨z, -, rfl⟩ := List.mem_map.1 hv
  exact .num trivial

/-- An integer that comes first of some integers as a double is computed as their extreme. -/
theorem Extreme.computed {r : WithBot (WithTop ℚ) → WithBot (WithTop ℚ) → Prop}
    {choose : Float → Float → Float} {a : Aggregation} (h : Extreme a r choose) (hmem : z ∈ items)
    (hz : z.natAbs < 2 ^ 64)
    (hfirst : ∀ w ∈ items, r (extended (Float.ofInt z)) (extended (Float.ofInt w))) :
    Json.Computed z (a.apply (items.map Json.int)) := by
  have hisFirst : IsFirst r (numbers (items.map Json.int)) (Float.ofInt z) := by
    rw [numbers_int]
    exact ⟨List.mem_map_of_mem hmem, List.forall_mem_map.2 hfirst⟩
  rw [h.apply_eq (finite_int items) hisFirst]
  exact Json.computed_ofFloat hz

section Integers

variable (hbits : ∀ w ∈ items, w.natAbs < 2 ^ 64)

include hbits

/-- The least of some integers is computed as their minimum. -/
theorem computed_min (hz : IsLeast {w | w ∈ items} z) :
    Json.Computed z (min.apply (items.map Json.int)) := by
  obtain ⟨hmem, hle⟩ := hz
  refine Extreme.min.computed hmem (hbits z hmem) ?_
  intro w hw
  exact extended_ofInt_le (hbits z hmem) (hbits w hw) (hle hw)

/-- The greatest of some integers is computed as their maximum. -/
theorem computed_max (hz : IsGreatest {w | w ∈ items} z) :
    Json.Computed z (max.apply (items.map Json.int)) := by
  obtain ⟨hmem, hle⟩ := hz
  refine Extreme.max.computed hmem (hbits z hmem) ?_
  intro w hw
  exact extended_ofInt_le (hbits w hw) (hbits z hmem) (hle hw)

end Integers

/-- Integers of which there is one have a least one. -/
theorem exists_isLeast (h : items ≠ []) : ∃ z, IsLeast {w | w ∈ items} z := by
  obtain ⟨z, hmem, hle⟩ := Set.exists_min_image {w | w ∈ items} id (List.finite_toSet items)
    (List.exists_mem_of_ne_nil items h)
  exact ⟨z, hmem, fun w hw => hle w hw⟩

/-- Integers of which there is one have a greatest one. -/
theorem exists_isGreatest (h : items ≠ []) : ∃ z, IsGreatest {w | w ∈ items} z := by
  obtain ⟨z, hmem, hle⟩ := Set.exists_max_image {w | w ∈ items} id (List.finite_toSet items)
    (List.exists_mem_of_ne_nil items h)
  exact ⟨z, hmem, fun w hw => hle w hw⟩

end Aggregation

/-- Integers are compared, and looked for among others, as the doubles nearest to them: so as the
integers that they are, unless different ones have one nearest double, which takes two of `2 ^ 53` or
more in magnitude. The least and the greatest of some integers are computed: exactly where they are
below `2 ^ 53` in magnitude, and else as the doubles nearest to them. -/
theorem integers_rounded :
    (∀ (scope : Fields) (op : Operator) (test : ℤ → ℤ → Bool) (left right : Expr) (a b : ℤ),
      op.integerTest? = some test → (Number.int a).Valid → (Number.int b).Valid →
      left.eval scope = .int a → right.eval scope = .int b →
      (Expr.binary op left right).eval scope = .bool (test (nearest a) (nearest b)) ∧
      (KeptApart a b → (Expr.binary op left right).eval scope = .bool (test a b))) ∧
    (∀ (scope : Fields) (left right : Expr) (a : ℤ) (items : List ℤ),
      (Number.int a).Valid → (∀ b ∈ items, (Number.int b).Valid) →
      left.eval scope = .int a → right.eval scope = .arr (items.map Json.int) →
      (Expr.binary .isIn left right).eval scope =
        .bool (decide (nearest a ∈ items.map nearest)) ∧
      ((∀ b ∈ items, KeptApart a b) →
        (Expr.binary .isIn left right).eval scope = .bool (decide (a ∈ items)))) ∧
    (∀ a b : ℤ, a.natAbs < 2 ^ 53 ∨ b.natAbs < 2 ^ 53 → KeptApart a b) ∧
    ∀ items : List ℤ, items ≠ [] → (∀ w ∈ items, (Number.int w).Valid) →
      (∃ z, IsLeast {w | w ∈ items} z ∧
        Json.Computed z (Aggregation.min.apply (items.map Json.int))) ∧
      ∃ z, IsGreatest {w | w ∈ items} z ∧
        Json.Computed z (Aggregation.max.apply (items.map Json.int)) := by
  refine ⟨?_, ?_, fun a b => keptApart_of_small, ?_⟩
  · intro scope op test left right a b htest ha hb hleft hright
    have heval : (Expr.binary op left right).eval scope =
        .bool (test (nearest a) (nearest b)) := by
      rw [Expr.eval, hleft, hright]
      exact Operator.apply_int htest ha hb
    refine ⟨heval, ?_⟩
    intro hapart
    rw [heval, Operator.test_nearest htest hapart]
  · intro scope left right a items ha hitems hleft hright
    have heval : (Expr.binary .isIn left right).eval scope =
        .bool (decide (nearest a ∈ items.map nearest)) := by
      rw [Expr.eval, hleft, hright]
      exact Operator.apply_isIn_int ha hitems
    refine ⟨heval, ?_⟩
    intro hapart
    rw [heval, decide_eq_decide.2 (Operator.mem_map_nearest hapart)]
  · intro items hne hvalid
    have hbits : ∀ w ∈ items, w.natAbs < 2 ^ 64 := fun w hw => (hvalid w hw).natAbs_lt
    obtain ⟨least, hleast⟩ := Aggregation.exists_isLeast hne
    obtain ⟨greatest, hgreatest⟩ := Aggregation.exists_isGreatest hne
    exact ⟨⟨least, hleast, Aggregation.computed_min hbits hleast⟩,
      greatest, hgreatest, Aggregation.computed_max hbits hgreatest⟩

/-- A document with two integers and an array of them. -/
def integerScope (a b : ℤ) : Fields :=
  [("doc", .obj [("a", .int a), ("b", .int b), ("both", .arr [.int a, .int b])])]

/-- The value of a field of the document. -/
def fieldOf (name : String) : Expr := .path "doc" [.key name]

/-- Comparisons with a small integer are exact, and it is found and is the least as it is; a large
one is rounded where it is the greatest. -/
theorem integers_rounded_mixed :
    (Expr.binary .lt (fieldOf "a") (fieldOf "b")).eval (integerScope 7 9007199254740993) =
      .bool true ∧
    (Expr.binary .isIn (fieldOf "a") (fieldOf "both")).eval (integerScope 7 9007199254740993) =
      .bool true ∧
    Aggregation.min.apply ([7, 9007199254740993].map Json.int) = .int 7 ∧
    ∃ x, Aggregation.max.apply ([7, 9007199254740993].map Json.int) = .num (.float x) ∧
      value? x = some (9007199254740992 : ℤ) := by
  have hsmall : (Number.int 7).Valid := ⟨by decide, by decide⟩
  have hlarge : (Number.int 9007199254740993).Valid := ⟨by decide, by decide⟩
  have hboth : ∀ w ∈ [(7 : ℤ), 9007199254740993], w = 7 ∨ w = 9007199254740993 := by
    intro w hw
    simpa using hw
  have hvalid : ∀ w ∈ [7, 9007199254740993], (Number.int w).Valid := by
    intro w hw
    rcases hboth w hw with rfl | rfl
    · exact hsmall
    · exact hlarge
  have hleast : IsLeast {w | w ∈ [7, 9007199254740993]} (7 : ℤ) := by
    refine ⟨List.mem_cons_self, fun w hw => ?_⟩
    rcases hboth w hw with rfl | rfl <;> decide
  have hgreatest : IsGreatest {w | w ∈ [7, 9007199254740993]} (9007199254740993 : ℤ) := by
    refine ⟨List.mem_cons_of_mem _ List.mem_cons_self, fun w hw => ?_⟩
    rcases hboth w hw with rfl | rfl <;> decide
  obtain ⟨hcompare, hfind, hapart, hextremes⟩ := integers_rounded
  have hseven : ∀ b, KeptApart 7 b := fun b => hapart 7 b (.inl (by decide))
  obtain ⟨⟨y, hy, hmin⟩, z, hz, hmax⟩ := hextremes [7, 9007199254740993] nofun hvalid
  obtain rfl := hy.unique hleast
  obtain rfl := hz.unique hgreatest
  refine ⟨?_, ?_, hmin, hmax⟩
  · exact (hcompare (integerScope 7 9007199254740993) .lt _ (fieldOf "a") (fieldOf "b") 7
      9007199254740993 rfl hsmall hlarge rfl rfl).2 (hseven _)
  · exact (hfind (integerScope 7 9007199254740993) (fieldOf "a") (fieldOf "both") 7
      [7, 9007199254740993] hsmall hvalid rfl rfl).2 fun b _ => hseven b

/-- Two integers with one nearest double are equal, and neither is below the other; the least and the
greatest of the larger one alone are no integers. -/
theorem integers_merge :
    (Expr.binary .eq (fieldOf "a") (fieldOf "b")).eval
        (integerScope 9007199254740992 9007199254740993) = .bool true ∧
    (Expr.binary .lt (fieldOf "a") (fieldOf "b")).eval
        (integerScope 9007199254740992 9007199254740993) = .bool false ∧
    Aggregation.min.apply [.int 9007199254740993] ≠ .int 9007199254740993 ∧
    Aggregation.max.apply [.int 9007199254740993] ≠ .int 9007199254740993 := by
  have hlower : (Number.int 9007199254740992).Valid := ⟨by decide, by decide⟩
  have hupper : (Number.int 9007199254740993).Valid := ⟨by decide, by decide⟩
  have hbits : ∀ w ∈ [(9007199254740993 : ℤ)], w.natAbs < 2 ^ 64 := by decide
  have halone : ∀ w ∈ [(9007199254740993 : ℤ)], w = 9007199254740993 := fun _ => List.mem_singleton.1
  obtain ⟨x, hmin, -⟩ := Aggregation.computed_min hbits
    ⟨List.mem_cons_self, fun w hw => (halone w hw).ge⟩
  obtain ⟨y, hmax, -⟩ := Aggregation.computed_max hbits
    ⟨List.mem_cons_self, fun w hw => (halone w hw).le⟩
  have hequals : Operator.integerTest? .eq = some fun a b => decide (a = b) := rfl
  have hbelow : Operator.integerTest? .lt = some fun a b => decide (a < b) := rfl
  refine ⟨Operator.apply_int hequals hlower hupper, Operator.apply_int hbelow hlower hupper,
    ?_, ?_⟩
  · intro h
    cases hmin.symm.trans h
  · intro h
    cases hmax.symm.trans h

end SeriesQuery
