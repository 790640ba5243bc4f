import SeriesQuery.Proofs.Number.Whole

/-!
# The order of doubles

Doubles that are numbers are compared as their exact values, with the infinities below and above all
others (`compare_eq`). The comparison looks at the exponents, and at the mantissas only where the
exponents are equal. That is the order of the values because all mantissas have their leading bit,
but those of the lowest exponent. An integer is never taken for a double that is no number.
-/

namespace SeriesQuery.Binary64

open Float.Model Float.Model.UnpackedFloat

/-! ### The order of exact values -/

/-- A mantissa and an exponent as the finite doubles have them. -/
structure IsCanonical (m : ℕ) (e : ℤ) : Prop where
  /-- The mantissa is not zero. -/
  pos : 0 < m
  /-- There are no more than 53 bits. -/
  mantissa_lt : m < 2 ^ 53
  /-- The exponent is not below the lowest one. -/
  le_exponent : -1074 ≤ e
  /-- The leading bit is there, unless the exponent is the lowest one. -/
  leading : 2 ^ 52 ≤ m ∨ e = -1074

/-- Finite doubles have such mantissas and exponents. -/
theorem isCanonical_of_unpacked {x : Float} {s : Sign} {m : ℕ} {e : ℤ} {hm : 0 < m}
    (h : unpacked x = .finite s m e hm) : IsCanonical m e := by
  obtain ⟨hlt, hlow, -, hleading⟩ := bounds_of_unpacked h
  exact ⟨hm, hlt, hlow, hleading⟩

/-- A nonzero mantissa has a positive value. -/
theorem IsCanonical.scaled_pos {m : ℕ} {e : ℤ} (h : IsCanonical m e) : 0 < scaled m e := by
  have hm : (0 : ℚ) < m := by exact_mod_cast h.pos
  unfold scaled
  positivity

/-- A mantissa with its leading bit and a greater exponent has the greater value. -/
theorem scaled_lt_scaled {m n : ℕ} {e f : ℤ} (hm : m < 2 ^ 53) (hn : 2 ^ 52 ≤ n) (h : e < f) :
    scaled m e < scaled n f := by
  have hmq : (m : ℚ) < 2 ^ 53 := by exact_mod_cast hm
  have hnq : (2 : ℚ) ^ 52 ≤ n := by exact_mod_cast hn
  calc scaled m e < 2 ^ 53 * (2 : ℚ) ^ e := by
        unfold scaled
        gcongr
    _ = 2 ^ 52 * (2 : ℚ) ^ (e + 1) := by
        rw [zpow_add₀ (by norm_num), zpow_one]
        ring
    _ ≤ 2 ^ 52 * (2 : ℚ) ^ f := by
        gcongr
        · norm_num
        · omega
    _ ≤ scaled n f := by
        unfold scaled
        gcongr

/-- Exponents and then mantissas are compared like the values. -/
theorem compare_scaled {m n : ℕ} {e f : ℤ} (hm : IsCanonical m e) (hn : IsCanonical n f) :
    (compare e f).then (compare m n) = compare (scaled m e) (scaled n f) := by
  have hlow := hm.le_exponent
  have hlow' := hn.le_exponent
  rcases lt_trichotomy e f with hlt | rfl | hgt
  · have hleading : 2 ^ 52 ≤ n := hn.leading.resolve_right (by omega)
    rw [compare_lt_iff_lt.2 hlt, compare_lt_iff_lt.2 (scaled_lt_scaled hm.mantissa_lt hleading hlt)]
    rfl
  · -- values of one exponent are compared like their mantissas
    have hmono : StrictMono fun k : ℕ => scaled k e := by
      intro a b hab
      have habq : (a : ℚ) < b := by exact_mod_cast hab
      show (a : ℚ) * (2 : ℚ) ^ e < b * (2 : ℚ) ^ e
      gcongr
    rw [compare_eq_iff_eq.2 rfl, ← cmp_eq_compare, ← cmp_eq_compare]
    exact (hmono.cmp_map_eq m n).symm
  · have hleading : 2 ^ 52 ≤ m := hm.leading.resolve_right (by omega)
    rw [compare_gt_iff_gt.2 hgt, compare_gt_iff_gt.2 (scaled_lt_scaled hn.mantissa_lt hleading hgt)]
    rfl

/-- Opposite numbers are compared the other way round. -/
theorem compare_neg (a b : ℚ) : compare (-a) (-b) = (compare a b).swap := by
  have hanti : StrictAnti fun q : ℚ => -q := fun _ _ h => neg_lt_neg h
  rw [← cmp_eq_compare, ← cmp_eq_compare, cmp_swap]
  exact hanti.cmp_map_eq a b

/-- Finite doubles are compared as their values. -/
theorem compare_finite {s t : Sign} {m n : ℕ} {e f : ℤ} {hm : 0 < m} {hn : 0 < n}
    (hx : IsCanonical m e) (hy : IsCanonical n f) :
    UnpackedFloat.compare (.finite s m e hm) (.finite t n f hn) =
      some (compare (signed s (scaled m e)) (signed t (scaled n f))) := by
  have hpos := hx.scaled_pos
  have hpos' := hy.scaled_pos
  cases s with
  | negative =>
      cases t with
      | negative =>
          show some ((compare e f).then (compare m n)).swap =
            some (compare (-scaled m e) (-scaled n f))
          rw [compare_scaled hx hy, compare_neg]
      | positive =>
          show some Ordering.lt = some (compare (-scaled m e) (scaled n f))
          rw [compare_lt_iff_lt.2 (by linarith)]
  | positive =>
      cases t with
      | negative =>
          show some Ordering.gt = some (compare (scaled m e) (-scaled n f))
          rw [compare_gt_iff_gt.2 (by linarith)]
      | positive =>
          show some ((compare e f).then (compare m n)) = some (compare (scaled m e) (scaled n f))
          rw [compare_scaled hx hy]

/-- A zero is compared with a finite double as their values are. -/
theorem compare_zero_left {s t : Sign} {n : ℕ} {f : ℤ} {hn : 0 < n} (hy : IsCanonical n f) :
    UnpackedFloat.compare (.zero s) (.finite t n f hn) =
      some (compare 0 (signed t (scaled n f))) := by
  have hpos := hy.scaled_pos
  cases t with
  | negative =>
      show some Ordering.gt = some (compare 0 (-scaled n f))
      rw [compare_gt_iff_gt.2 (by linarith)]
  | positive =>
      show some Ordering.lt = some (compare 0 (scaled n f))
      rw [compare_lt_iff_lt.2 hpos]

/-- A finite double is compared with a zero as their values are. -/
theorem compare_zero_right {s t : Sign} {n : ℕ} {f : ℤ} {hn : 0 < n} (hy : IsCanonical n f) :
    UnpackedFloat.compare (.finite t n f hn) (.zero s) =
      some (compare (signed t (scaled n f)) 0) := by
  have hpos := hy.scaled_pos
  cases t with
  | negative =>
      show some Ordering.lt = some (compare (-scaled n f) 0)
      rw [compare_lt_iff_lt.2 (by linarith)]
  | positive =>
      show some Ordering.gt = some (compare (scaled n f) 0)
      rw [compare_gt_iff_gt.2 hpos]

/-- The value of an unpacked double, with the infinities at both ends; what is no number is put where
the positive infinity is. -/
def extendedValue : UnpackedFloat → WithBot (WithTop ℚ)
  | .notANumber => ⊤
  | .infinity .positive => ⊤
  | .infinity .negative => ⊥
  | .zero _ => ((0 : ℚ) : WithTop ℚ)
  | .finite s m e _ => ((signed s (scaled m e) : ℚ) : WithTop ℚ)

/-- The value of a double, with the infinities at both ends. -/
def extended (x : Float) : WithBot (WithTop ℚ) := extendedValue (unpacked x)

section Ends

variable (a b : ℚ)

/-- Values are compared as they are below the ends. -/
theorem compare_coe :
    compare ((a : WithTop ℚ) : WithBot (WithTop ℚ)) (b : WithTop ℚ) = compare a b := by
  have hmono : StrictMono fun q : ℚ => ((q : WithTop ℚ) : WithBot (WithTop ℚ)) := by
    intro a b hab
    exact WithBot.coe_lt_coe.2 (WithTop.coe_lt_coe.2 hab)
  rw [← cmp_eq_compare, ← cmp_eq_compare]
  exact hmono.cmp_map_eq a b

/-- Negative infinity is below every value. -/
theorem bot_lt_value : (⊥ : WithBot (WithTop ℚ)) < (a : WithTop ℚ) := WithBot.bot_lt_coe _

/-- Positive infinity is above every value. -/
theorem value_lt_top : ((a : WithTop ℚ) : WithBot (WithTop ℚ)) < ⊤ :=
  WithBot.coe_lt_coe.2 (WithTop.coe_lt_top a)

end Ends

/-- A double that is a number is compared with an infinity as their values are. -/
theorem compare_infinity (u : UnpackedFloat) (hu : u.isNaN = false) (s : Sign) :
    UnpackedFloat.compare (.infinity s) u =
        some (compare (extendedValue (.infinity s)) (extendedValue u)) ∧
      UnpackedFloat.compare u (.infinity s) =
        some (compare (extendedValue u) (extendedValue (.infinity s))) := by
  cases u with
  | notANumber => cases hu
  | infinity t => cases s <;> cases t <;> exact ⟨rfl, rfl⟩
  | zero t =>
      cases s with
      | negative =>
          exact ⟨congrArg some (compare_lt_iff_lt.2 (bot_lt_value 0)).symm,
            congrArg some (compare_gt_iff_gt.2 (bot_lt_value 0)).symm⟩
      | positive =>
          exact ⟨congrArg some (compare_gt_iff_gt.2 (value_lt_top 0)).symm,
            congrArg some (compare_lt_iff_lt.2 (value_lt_top 0)).symm⟩
  | finite t n f hn =>
      cases s with
      | negative =>
          exact ⟨congrArg some (compare_lt_iff_lt.2 (bot_lt_value _)).symm,
            congrArg some (compare_gt_iff_gt.2 (bot_lt_value _)).symm⟩
      | positive =>
          exact ⟨congrArg some (compare_gt_iff_gt.2 (value_lt_top _)).symm,
            congrArg some (compare_lt_iff_lt.2 (value_lt_top _)).symm⟩

/-- Doubles that are numbers are compared as their values. -/
theorem compare_eq {x y : Float} (hx : x.isNaN = false) (hy : y.isNaN = false) :
    (unpacked x).compare (unpacked y) = some (compare (extended x) (extended y)) := by
  have hx : (unpacked x).isNaN = false := hx
  have hy : (unpacked y).isNaN = false := hy
  rw [extended, extended]
  cases hu : unpacked x with
  | notANumber =>
      rw [hu] at hx
      cases hx
  | infinity s => exact (compare_infinity _ hy s).1
  | zero s =>
      cases hv : unpacked y with
      | notANumber =>
          rw [hv] at hy
          cases hy
      | infinity t => exact (compare_infinity (.zero s) rfl t).2
      | zero t => exact congrArg some (compare_eq_iff_eq.2 rfl).symm
      | finite t n f hn =>
          rw [compare_zero_left (isCanonical_of_unpacked hv)]
          exact congrArg some (compare_coe _ _).symm
  | finite s m e hm =>
      cases hv : unpacked y with
      | notANumber =>
          rw [hv] at hy
          cases hy
      | infinity t => exact (compare_infinity (.finite s m e hm) rfl t).2
      | zero t =>
          rw [compare_zero_right (isCanonical_of_unpacked hu)]
          exact congrArg some (compare_coe _ _).symm
      | finite t n f hn =>
          rw [compare_finite (isCanonical_of_unpacked hu) (isCanonical_of_unpacked hv)]
          exact congrArg some (compare_coe _ _).symm

variable {x y : Float}

/-- A double is below another exactly if its value is. -/
theorem lt_iff (hx : x.isNaN = false) (hy : y.isNaN = false) : x < y ↔ extended x < extended y := by
  have hlt : x < y ↔ ((unpacked x).compare (unpacked y) == some Ordering.lt) = true :=
    decide_eq_true_iff
  rw [hlt, compare_eq hx hy, ← compare_lt_iff_lt]
  simp

/-- A double is at most another exactly if its value is. -/
theorem le_iff (hx : x.isNaN = false) (hy : y.isNaN = false) : x ≤ y ↔ extended x ≤ extended y := by
  have hle : x ≤ y ↔ ((unpacked x).compare (unpacked y)).any (·.isLE) = true :=
    decide_eq_true_iff
  rw [hle, compare_eq hx hy, Option.any_some, Ordering.isLE_iff_ne_gt]
  exact compare_le_iff_le

/-- Doubles are equal exactly if their values are. -/
theorem beq_iff (hx : x.isNaN = false) (hy : y.isNaN = false) :
    (x == y) = true ↔ extended x = extended y := by
  have hbeq : (x == y) = ((unpacked x).compare (unpacked y) == some Ordering.eq) := rfl
  rw [hbeq, compare_eq hx hy, ← compare_eq_iff_eq]
  simp

/-- Where one double is not below another, that one is at most this. -/
theorem not_lt_iff (hx : x.isNaN = false) (hy : y.isNaN = false) : ¬ y < x ↔ x ≤ y := by
  rw [lt_iff hy hx, le_iff hx hy, not_lt]

/-! ### Equal doubles -/

/-- A double with the word of a zero is this zero. -/
theorem unpacked_of_packedZero {s : Sign}
    (h : x.toModel.toBits.toBitVec = packedZero Format.binary64 s) : unpacked x = .zero s := by
  show UnpackedFloat.unpack Format.binary64 x.toModel.toBits.toBitVec = _
  rw [h]
  exact unpack_packedZero

/-- Equal doubles are one double, or both are zeros. -/
theorem eq_or_zeros_of_beq (h : (x == y) = true) :
    x = y ∨ ∃ s t, unpacked x = .zero s ∧ unpacked y = .zero t := by
  have hbeq : (unpacked x).beq (unpacked y) = true := h
  obtain ⟨-, -, hsame | ⟨hx, hy⟩ | ⟨hx, hy⟩⟩ :=
    (unpack_beq_unpack_iff x.toModel.valid y.toModel.valid).1 hbeq
  · exact .inl (Float.toBits_inj.1 (UInt64.toBitVec_inj.1 hsame))
  · exact .inr ⟨_, _, unpacked_of_packedZero hx, unpacked_of_packedZero hy⟩
  · exact .inr ⟨_, _, unpacked_of_packedZero hx, unpacked_of_packedZero hy⟩

/-- A comparison does not see the sign of a zero. -/
theorem compare_zeros (s t : Sign) (u : UnpackedFloat) :
    UnpackedFloat.compare (.zero s) u = UnpackedFloat.compare (.zero t) u := by
  cases u with
  | infinity sign => cases sign <;> rfl
  | finite sign m e hm => cases sign <;> rfl
  | _ => rfl

/-- Equal doubles are equal to the same doubles. -/
theorem beq_congr (h : (x == y) = true) (z : Float) : (x == z) = (y == z) := by
  rcases eq_or_zeros_of_beq h with rfl | ⟨s, t, hx, hy⟩
  · rfl
  · show ((unpacked x).compare (unpacked z) == some Ordering.eq) =
      ((unpacked y).compare (unpacked z) == some Ordering.eq)
    rw [hx, hy, compare_zeros s t]

/-- Equal doubles have one value. -/
theorem extended_congr (h : (x == y) = true) : extended x = extended y := by
  rcases eq_or_zeros_of_beq h with rfl | ⟨s, t, hx, hy⟩
  · rfl
  · rw [extended, extended, hx, hy]
    rfl

/-- Equal doubles become one value of the data format. -/
theorem ofFloat_congr (h : (x == y) = true) : Json.ofFloat x = Json.ofFloat y := by
  rcases eq_or_zeros_of_beq h with rfl | ⟨s, t, hx, hy⟩
  · rfl
  · have hzero : ∀ {z : Float} {u : Sign}, unpacked z = .zero u → HasValue z ((0 : ℤ) : ℚ) := by
      intro z u hz
      rw [Int.cast_zero]
      exact .zero hz
    rw [(hzero hx).ofFloat_eq (by decide), (hzero hy).ofFloat_eq (by decide)]

/-! ### Numbers -/

/-- A double with a finite value is a number. -/
theorem not_isNaN_of_isFinite (h : isFinite x = true) : x.isNaN = false := by
  rw [isFinite, parts?_eq] at h
  show (unpacked x).isNaN = false
  cases hx : unpacked x with
  | notANumber =>
      rw [hx] at h
      cases h
  | infinity s => rfl
  | zero s => rfl
  | finite s m e hm => rfl

/-- A finite double is compared as its value. -/
theorem extended_of_value? {v : ℚ} (h : value? x = some v) :
    extended x = ((v : WithTop ℚ) : WithBot (WithTop ℚ)) := by
  rw [value?, parts?_eq] at h
  rw [extended]
  cases hx : unpacked x with
  | notANumber => simp [hx, unpackedParts?] at h
  | infinity s => simp [hx, unpackedParts?] at h
  | zero s =>
      obtain rfl : 0 = v := by simpa [hx, unpackedParts?] using h
      rfl
  | finite s m e hm =>
      obtain rfl : signed s (scaled m e) = v := by
        simpa [hx, unpackedParts?, apply_mul_zpow] using h
      rfl

/-- A double with an exact value is a number. -/
theorem not_isNaN_of_value? {v : ℚ} (h : value? x = some v) : x.isNaN = false := by
  refine not_isNaN_of_isFinite ?_
  rw [value?, Option.map_eq_some_iff] at h
  obtain ⟨parts, hparts, -⟩ := h
  rw [isFinite, hparts]
  rfl

/-- A double with a value is finite. -/
theorem HasValue.isFinite {q : ℚ} (h : HasValue x q) : isFinite x = true := by
  obtain ⟨m, e, hparts, -⟩ := h.exists_parts
  rw [Binary64.isFinite, hparts]
  rfl

/-- A word whose exponent field is not the greatest one is a number. -/
theorem not_isNaN_packComponents (s : Sign) {e : BitVec 11} (m : BitVec 52) (he : e ≠ -1#_) :
    (UnpackedFloat.unpack Format.binary64 (packComponents Format.binary64 s e m)).isNaN = false := by
  have he : unpackExponent (packComponents Format.binary64 s e m) ≠ -1#_ := by
    rw [unpackExponent_packComponents]
    exact he
  rw [UnpackedFloat.unpack]
  simp only [if_neg he]
  split
  · split <;> rfl
  · rfl

/-- What is packed as a number is unpacked as a number. -/
theorem not_isNaN_pack {u : UnpackedFloat} (h : u.isNaN = false) :
    (Float.Model.pack u).unpack.isNaN = false := by
  cases u with
  | notANumber => cases h
  | infinity s => cases s <;> rfl
  | zero s => cases s <;> rfl
  | finite s m e hm =>
      show (UnpackedFloat.unpack Format.binary64 (UnpackedFloat.pack Format.binary64 _)).isNaN = _
      rw [UnpackedFloat.pack]
      simp only
      split
      · cases s <;> rfl
      · next hsmall =>
          split
          · refine not_isNaN_packComponents s _ ?_
            rw [ne_eq, ← BitVec.toNat_inj, BitVec.toNat_ofNat]
            have hfield : ∀ k : ℕ, ¬2 ^ 11 ≤ k + 1 → k % 2 ^ 11 ≠ 2047 := by
              intro k hk
              omega
            exact hfield _ hsmall
          · exact not_isNaN_packComponents s _ (by decide)

/-- What is rounded is a number. -/
theorem not_isNaN_roundWithAccuracy (s : Sign) (m : ℕ) (e : ℤ) (a : Accuracy) :
    (roundWithAccuracy Format.binary64 s m e a).isNaN = false := by
  simp only [roundWithAccuracy]
  split <;> rfl

/-- From `2 ^ 53` on a natural number with 53 zeros after it is rounded as a double. -/
theorem unpacked_ofNat {n : ℕ} (hn : 2 ^ 53 ≤ n) :
    unpacked (Float.ofNat n) =
      (Float.Model.pack
        (roundWithAccuracy Format.binary64 .positive (n * 2 ^ 53) (-53) .exact)).unpack := by
  have hslow : unpacked (Float.ofNat n) =
      (Float.Model.pack (UnpackedFloat.ofScientific Format.binary64 n 0)).unpack := by
    show unpacked (Float.ofScientific n false 0) = _
    rw [Float.ofScientific, dif_neg (fun h => absurd h.1 (by omega))]
    rfl
  have hmin : ¬ (0 : ℤ) < -(2 ^ 11 + n.log2) := by omega
  have hproduct : n <<< 53 * 10 ^ 0 = n * 2 ^ 53 := by
    rw [pow_zero, mul_one, Nat.shiftLeft_eq]
  rw [hslow, UnpackedFloat.ofScientific, dif_neg (by omega), if_neg (by decide), if_neg hmin,
    if_pos le_rfl, UnpackedFloat.mul, ← hproduct]
  rfl

/-- A natural number is a number as a double. -/
theorem not_isNaN_ofNat (n : ℕ) : (Float.ofNat n).isNaN = false := by
  by_cases hn : n < 2 ^ 53
  · exact not_isNaN_of_isFinite (hasValue_ofNat hn).isFinite
  · show (unpacked (Float.ofNat n)).isNaN = false
    rw [unpacked_ofNat (by omega)]
    exact not_isNaN_pack (not_isNaN_roundWithAccuracy _ _ _ _)

/-- An integer is a number as a double. -/
theorem not_isNaN_ofInt (z : ℤ) : (Float.ofInt z).isNaN = false := by
  cases z with
  | ofNat n => exact not_isNaN_ofNat n
  | negSucc n =>
      have hneg : (unpacked (Float.ofNat n.succ)).neg.isNaN = false := by
        have h : (unpacked (Float.ofNat n.succ)).isNaN = false := not_isNaN_ofNat n.succ
        cases hu : unpacked (Float.ofNat n.succ) with
        | notANumber =>
            rw [hu] at h
            cases h
        | _ => rfl
      exact not_isNaN_pack hneg

/-! ### Sorting -/

section Sorting

variable {α β : Type} [LinearOrder β]

/-- A list is sorted by a key, and what has one key stays in order. -/
structure StablySorted (key : α → Float) (sorted l : List α) : Prop where
  /-- Nothing is lost or added. -/
  perm : sorted.Perm l
  /-- The keys do not decrease. -/
  ascending : sorted.Pairwise fun a b => key a ≤ key b
  /-- The elements with the key of one of them are in the order that they had. -/
  stable : ∀ a ∈ l, sorted.filter (key · == key a) = l.filter (key · == key a)

/-- Comparing keys is transitive. -/
theorem decide_key_trans (f : α → β) (a b c : α) (hab : decide (f a ≤ f b) = true)
    (hbc : decide (f b ≤ f c) = true) : decide (f a ≤ f c) = true :=
  decide_eq_true ((of_decide_eq_true hab).trans (of_decide_eq_true hbc))

/-- Any two keys are comparable. -/
theorem decide_key_total (f : α → β) (a b : α) :
    (decide (f a ≤ f b) || decide (f b ≤ f a)) = true := by
  rw [Bool.or_eq_true, decide_eq_true_iff, decide_eq_true_iff]
  exact le_total (f a) (f b)

/-- Sorting by a key keeps what has one key in order. -/
theorem filter_mergeSort (f : α → β) (key : β) (l : List α) :
    (l.mergeSort fun a b => decide (f a ≤ f b)).filter (f · = key) = l.filter (f · = key) := by
  -- what has one key is a sorted part of the list, so it is a part of the sorted list
  have hsorted : (l.filter (f · = key)).Pairwise fun a b => decide (f a ≤ f b) = true := by
    refine List.pairwise_of_forall_mem_list ?_
    intro a ha b hb
    have hkey := of_decide_eq_true (List.mem_filter.1 ha).2
    have hkey' := of_decide_eq_true (List.mem_filter.1 hb).2
    exact decide_eq_true (hkey.trans hkey'.symm).le
  have hpart := (List.sublist_mergeSort (decide_key_trans f) (decide_key_total f) hsorted
    List.filter_sublist).filter (f · = key)
  simp only [List.filter_filter, Bool.and_self] at hpart
  have hlength := ((List.mergeSort_perm l fun a b => decide (f a ≤ f b)).filter
    (f · = key)).length_eq
  exact (hpart.eq_of_length hlength.symm).symm

/-- Comparisons that agree on a list sort it alike. -/
theorem mergeSort_congr {r s : α → α → Bool} {l : List α} (h : ∀ a ∈ l, ∀ b ∈ l, r a b = s a b) :
    l.mergeSort r = l.mergeSort s := by
  have hmap := List.map_mergeSort (f := id) h
  rwa [List.map_id, List.map_id] at hmap

/-- Lists are sorted by doubles that are numbers. -/
theorem stablySorted_mergeSort {key : α → Float} {l : List α}
    (h : ∀ a ∈ l, (key a).isNaN = false) :
    StablySorted key (l.mergeSort fun a b => !(key b < key a)) l := by
  have hsort : (l.mergeSort fun a b => !(key b < key a)) =
      l.mergeSort fun a b => decide (extended (key a) ≤ extended (key b)) := by
    refine mergeSort_congr ?_
    intro a ha b hb
    rw [← decide_not, decide_eq_decide, not_lt_iff (h a ha) (h b hb), le_iff (h a ha) (h b hb)]
  have hperm : (l.mergeSort fun a b => !(key b < key a)).Perm l := List.mergeSort_perm _ _
  refine ⟨hperm, ?_, ?_⟩
  · have hpairwise := List.pairwise_mergeSort (decide_key_trans fun a => extended (key a))
      (decide_key_total fun a => extended (key a)) l
    rw [← hsort] at hpairwise
    refine hpairwise.imp_of_mem ?_
    intro a b ha hb hab
    rw [le_iff (h a (hperm.mem_iff.1 ha)) (h b (hperm.mem_iff.1 hb))]
    exact of_decide_eq_true hab
  · intro a ha
    have hkeys : ∀ b ∈ l, (key b == key a) = decide (extended (key b) = extended (key a)) := by
      intro b hb
      rw [Bool.eq_iff_iff, beq_iff (h b hb) (h a ha), decide_eq_true_iff]
    have hfilter : ∀ l' : List α, (∀ b ∈ l', b ∈ l) →
        l'.filter (key · == key a) =
          l'.filter fun b => extended (key b) = extended (key a) := by
      intro l' hl'
      exact List.filter_congr fun b hb => hkeys b (hl' b hb)
    rw [hfilter l fun _ hb => hb, hfilter _ fun _ hb => hperm.mem_iff.1 hb, hsort]
    exact filter_mergeSort (fun b => extended (key b)) _ l

end Sorting

end SeriesQuery.Binary64
