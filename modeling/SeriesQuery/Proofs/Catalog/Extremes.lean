import SeriesQuery.Catalog.Aggregation
import SeriesQuery.Proofs.Json.Order

/-!
# The least and the greatest number

Both aggregations go through the numbers and keep one of two, which comes first in a total order of
their values. So they give the value of any number that comes first of all (`Extreme.apply_eq`), and
it does not matter in which order the numbers come (`Extreme.apply_perm`).
-/

namespace SeriesQuery

open Binary64

namespace Aggregation

/-- A function that gives one of two doubles whose value comes first, before or at both values. -/
structure Chooses (r : WithBot (WithTop ℚ) → WithBot (WithTop ℚ) → Prop)
    (choose : Float → Float → Float) : Prop where
  /-- A value comes before or at itself. -/
  refl : ∀ v, r v v
  /-- What comes before or at a value comes before or at what this one does. -/
  trans : ∀ u v w, r u v → r v w → r u w
  /-- Only one value comes first. -/
  antisymm : ∀ v w, r v w → r w v → v = w
  /-- One of two doubles is given. -/
  either : ∀ x y, choose x y = x ∨ choose x y = y
  /-- The given one comes before or at both. -/
  first : ∀ x y, x.isNaN = false → y.isNaN = false →
    r (extended (choose x y)) (extended x) ∧ r (extended (choose x y)) (extended y)

/-- The smaller of two doubles comes first in ascending order. -/
theorem chooses_least : Chooses (· ≤ ·) least where
  refl := le_refl
  trans _ _ _ := le_trans
  antisymm _ _ := le_antisymm
  either _ _ := (ite_eq_or_eq _ _ _).symm
  first x y hx hy := by
    rw [least]
    simp only [lt_iff hy hx]
    split_ifs with hlt
    · exact ⟨hlt.le, le_rfl⟩
    · exact ⟨le_rfl, not_lt.1 hlt⟩

/-- The larger of two doubles comes first in descending order. -/
theorem chooses_greatest : Chooses (· ≥ ·) greatest where
  refl := le_refl
  trans _ _ _ huv hvw := hvw.trans huv
  antisymm _ _ hvw hwv := le_antisymm hwv hvw
  either _ _ := (ite_eq_or_eq _ _ _).symm
  first x y hx hy := by
    rw [greatest]
    simp only [lt_iff hx hy]
    split_ifs with hlt
    · exact ⟨hlt.le, le_rfl⟩
    · exact ⟨le_rfl, not_lt.1 hlt⟩

/-- A double of a list whose value comes before or at all values of the list. -/
structure IsFirst (r : WithBot (WithTop ℚ) → WithBot (WithTop ℚ) → Prop) (xs : List Float)
    (x : Float) : Prop where
  /-- The double is one of the list. -/
  mem : x ∈ xs
  /-- No double of the list comes before it. -/
  first : ∀ y ∈ xs, r (extended x) (extended y)

variable {r : WithBot (WithTop ℚ) → WithBot (WithTop ℚ) → Prop} {choose : Float → Float → Float}
variable {x y : Float} {xs : List Float} {a : Aggregation} {values others : List Json}

/-- Of a double and a list that starts with one, the given one of both may start the list. -/
theorem Chooses.isFirst_cons (h : Chooses r choose) (hx : x.isNaN = false) (hy : y.isNaN = false)
    {z : Float} (hz : IsFirst r (choose x y :: xs) z) : IsFirst r (x :: y :: xs) z := by
  obtain ⟨hxs, hys⟩ := h.first x y hx hy
  obtain ⟨hfirst, hrest⟩ := List.forall_mem_cons.1 hz.first
  refine ⟨?_, ?_⟩
  · rcases List.mem_cons.1 hz.mem with rfl | hmem
    · rcases h.either x y with heq | heq
      · rw [heq]
        exact List.mem_cons_self
      · rw [heq]
        exact List.mem_cons_of_mem _ List.mem_cons_self
    · exact List.mem_cons_of_mem _ (List.mem_cons_of_mem _ hmem)
  · refine List.forall_mem_cons.2 ⟨h.trans _ _ _ hfirst hxs, ?_⟩
    exact List.forall_mem_cons.2 ⟨h.trans _ _ _ hfirst hys, hrest⟩

/-- Going through a list and keeping one of two gives a double that comes first. -/
theorem Chooses.isFirst_foldl (h : Chooses r choose) (hxs : ∀ y ∈ x :: xs, y.isNaN = false) :
    IsFirst r (x :: xs) (xs.foldl choose x) := by
  induction xs generalizing x with
  | nil =>
      refine ⟨List.mem_cons_self, ?_⟩
      intro y hy
      rw [List.mem_singleton.1 hy]
      exact h.refl _
  | cons y xs ih =>
      obtain ⟨hx, hxs⟩ := List.forall_mem_cons.1 hxs
      obtain ⟨hy, hxs⟩ := List.forall_mem_cons.1 hxs
      refine h.isFirst_cons hx hy (ih (List.forall_mem_cons.2 ⟨?_, hxs⟩))
      rcases h.either x y with heq | heq
      · rw [heq]
        exact hx
      · rw [heq]
        exact hy

/-- Two doubles that come first are equal. -/
theorem Chooses.beq_of_isFirst (h : Chooses r choose) (hxs : ∀ y ∈ xs, y.isNaN = false)
    (hx : IsFirst r xs x) (hy : IsFirst r xs y) : (x == y) = true :=
  (beq_iff (hxs x hx.mem) (hxs y hy.mem)).2
    (h.antisymm _ _ (hx.first y hy.mem) (hy.first x hx.mem))

/-- The aggregations that keep one of two doubles. -/
inductive Extreme : Aggregation → (WithBot (WithTop ℚ) → WithBot (WithTop ℚ) → Prop) →
    (Float → Float → Float) → Prop where
  /-- The least number. -/
  | min : Extreme .min (· ≤ ·) least
  /-- The greatest number. -/
  | max : Extreme .max (· ≥ ·) greatest

/-- What an extreme keeps comes first. -/
theorem Extreme.chooses (h : Extreme a r choose) : Chooses r choose := by
  cases h with
  | min => exact chooses_least
  | max => exact chooses_greatest

/-- No numbers have no extreme. -/
theorem Extreme.apply_nil (h : Extreme a r choose) (hnone : numbers values = []) :
    a.apply values = .null := by
  cases h with
  | min | max => simp [apply, hnone, ofNumbers]

/-- An extreme goes through the numbers. -/
theorem Extreme.apply_cons (h : Extreme a r choose) (hsome : numbers values = x :: xs) :
    a.apply values = .ofFloat (xs.foldl choose x) := by
  cases h with
  | min | max => simp only [apply, hsome, ofNumbers]

/-- The numbers of finite values are numbers as doubles. -/
theorem not_isNaN_of_mem_numbers (hfinite : ∀ v ∈ values, v.Finite) :
    ∀ y ∈ numbers values, y.isNaN = false := by
  intro y hy
  obtain ⟨v, hv, hnumber⟩ := List.mem_filterMap.1 hy
  have hvf := hfinite v hv
  cases hvf with
  | num hn =>
      obtain rfl := Option.some.inj hnumber
      exact Number.not_isNaN_toFloat hn
  | _ => cases hnumber

/-- An extreme is the value of any number that comes first. -/
theorem Extreme.apply_eq (h : Extreme a r choose) (hfinite : ∀ v ∈ values, v.Finite)
    (hx : IsFirst r (numbers values) x) : a.apply values = .ofFloat x := by
  have hnumbers := not_isNaN_of_mem_numbers hfinite
  cases hlist : numbers values with
  | nil =>
      rw [hlist] at hx
      exact absurd hx.mem List.not_mem_nil
  | cons y ys =>
      rw [hlist] at hx hnumbers
      rw [h.apply_cons hlist]
      exact ofFloat_congr
        (h.chooses.beq_of_isFirst hnumbers (h.chooses.isFirst_foldl hnumbers) hx)

/-- Numbers have one that comes first. -/
theorem Extreme.exists_isFirst (h : Extreme a r choose) (hfinite : ∀ v ∈ values, v.Finite)
    (hne : numbers values ≠ []) : ∃ x, IsFirst r (numbers values) x := by
  have hnumbers := not_isNaN_of_mem_numbers hfinite
  cases hlist : numbers values with
  | nil => exact absurd hlist hne
  | cons y ys =>
      rw [hlist] at hnumbers
      exact ⟨_, h.chooses.isFirst_foldl hnumbers⟩

/-- What comes first of a list comes first of the list in another order. -/
theorem IsFirst.perm {ys : List Float} (h : IsFirst r xs x) (hperm : xs.Perm ys) :
    IsFirst r ys x :=
  ⟨hperm.mem_iff.1 h.mem, fun y hy => h.first y (hperm.mem_iff.2 hy)⟩

/-- An extreme does not depend on the order of the values. -/
theorem Extreme.apply_perm (h : Extreme a r choose) (hfinite : ∀ v ∈ values, v.Finite)
    (hperm : values.Perm others) : a.apply values = a.apply others := by
  have hnumbers : (numbers values).Perm (numbers others) := hperm.filterMap _
  by_cases hnone : numbers values = []
  · have hnone' : numbers others = [] := by
      rw [hnone] at hnumbers
      exact hnumbers.symm.eq_nil
    rw [h.apply_nil hnone, h.apply_nil hnone']
  · obtain ⟨x, hx⟩ := h.exists_isFirst hfinite hnone
    rw [h.apply_eq hfinite hx]
    exact (h.apply_eq (fun v hv => hfinite v (hperm.mem_iff.2 hv)) (hx.perm hnumbers)).symm

end Aggregation

end SeriesQuery
