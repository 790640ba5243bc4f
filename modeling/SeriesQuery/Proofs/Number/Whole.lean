import SeriesQuery.Json
import SeriesQuery.Proofs.Number.Arithmetic

/-!
# Whole doubles

Whole numbers below `2 ^ 53` in magnitude: they become doubles, are floors of doubles, and are read
back as integers, without a change. The value of a double is an integer times a power of two, and
`HasValue.exists_parts` gives this integer to the functions that are stated on it.
-/

namespace SeriesQuery.Binary64

open Float.Model Float.Model.UnpackedFloat

/-- The double that whole numbers are multiplied by when they are read. -/
theorem unpacked_one : unpacked (Float.ofBits 0x3FF0000000000000) =
    .finite .positive (2 ^ 52) (-52) (by decide) := by
  rfl

/-- The double from which on no double is taken for an integer. -/
theorem unpacked_wholeLimit :
    unpacked Number.wholeLimit = .finite .positive (2 ^ 52) 1 (by decide) := by
  rfl

/-- A natural number below `2 ^ 53` is exact as a double. -/
theorem hasValue_ofNat {n : ℕ} (hn : n < 2 ^ 53) : HasValue (Float.ofNat n) n := by
  rcases Nat.eq_zero_or_pos n with rfl | hpos
  · have hzero : unpacked (Float.ofNat 0) = .zero .positive := rfl
    rw [Nat.cast_zero]
    exact .zero hzero
  · -- below the limit a decimal is its digits times a power of ten, here the power 1
    have hfast : Float.ofNat n = n.toUInt64.toFloat * Float.ofBits 0x3FF0000000000000 := by
      show Float.ofScientific n false 0 = _
      rw [Float.ofScientific, dif_pos ⟨hn, by decide⟩]
      rfl
    obtain ⟨m, e, hm, hx, hnormal, hvalue⟩ := unpacked_toUInt64 hpos hn
    have hone : IsNormal (2 ^ 52) (-52) := ⟨by decide, by decide, by decide, by decide⟩
    have hscaled : scaled m e * scaled (2 ^ 52) (-52) = n := by
      rw [hvalue, scaled]
      norm_num
    have hbound : scaled m e ≤ 2 ^ 53 := by
      rw [hvalue]
      exact_mod_cast hn.le
    have hlow : 1 ≤ scaled m e := by
      rw [hvalue]
      exact_mod_cast hpos
    have hexponent := hnormal.exponent_bounds hlow hbound
    obtain ⟨r, t, hr, hproduct, hnormal', hexact⟩ :=
      unpacked_mul hx unpacked_one hnormal hone (by omega) (by omega)
        (hscaled ▸ representable_nat hn.le)
    have hresult := HasValue.normal hproduct hnormal'
    rw [hexact, hscaled, ← hfast] at hresult
    exact hresult

/-- An integer below `2 ^ 53` in magnitude is exact as a double. -/
theorem hasValue_ofInt {z : ℤ} (hz : z.natAbs < 2 ^ 53) : HasValue (Float.ofInt z) z := by
  cases z with
  | ofNat n => exact hasValue_ofNat hz
  | negSucc n =>
      have hcast : ((Int.negSucc n : ℤ) : ℚ) = -((n + 1 : ℕ) : ℚ) := by
        rw [Int.cast_negSucc]
      rw [hcast]
      exact (hasValue_ofNat hz).neg

/-- The powers of two are powers. -/
theorem pow2_eq (n : ℕ) : pow2 n = 2 ^ n := rfl

/-- The floor of an integer that is divided by a power of two. -/
theorem floor_mul_zpow {z e : ℤ} (he : e < 0) :
    ⌊(z : ℚ) * (2 : ℚ) ^ e⌋ = z / (pow2 (-e).toNat : ℤ) := by
  obtain ⟨k, rfl⟩ : ∃ k : ℕ, e = -k := ⟨(-e).toNat, by omega⟩
  have hdiv : (z : ℚ) * (2 : ℚ) ^ (-k : ℤ) = z / (2 ^ k : ℕ) := by
    rw [zpow_neg, zpow_natCast, ← div_eq_mul_inv]
    push_cast
    rfl
  rw [hdiv, Rat.floor_intCast_div_natCast, neg_neg, Int.toNat_natCast]
  rfl

/-- An integer whose quotient by a power of two is whole is a multiple of it. -/
theorem eq_mul_of_mul_zpow {z e w : ℤ} (he : e < 0) (hw : (z : ℚ) * (2 : ℚ) ^ e = w) :
    z = w * (pow2 (-e).toNat : ℤ) := by
  obtain ⟨k, rfl⟩ : ∃ k : ℕ, e = -k := ⟨(-e).toNat, by omega⟩
  rw [neg_neg, Int.toNat_natCast]
  have hpow : (0 : ℚ) < 2 ^ k := by positivity
  rw [zpow_neg, zpow_natCast, ← div_eq_mul_inv, div_eq_iff hpow.ne'] at hw
  exact_mod_cast hw

/-- A whole multiple of a power of two. -/
theorem mul_pow_toNat {z e : ℤ} (he : 0 ≤ e) :
    ((z * (pow2 e.toNat : ℤ) : ℤ) : ℚ) = (z : ℚ) * (2 : ℚ) ^ e := by
  obtain ⟨k, rfl⟩ := Int.eq_ofNat_of_zero_le he
  rw [Int.toNat_natCast, zpow_natCast, pow2_eq]
  push_cast
  rfl

/-- An integer is brought into the signed 64-bit range. -/
theorem toInt_clamp_eq (z : ℤ) : (clamp z).toInt = max (-2 ^ 63) (min z (2 ^ 63 - 1)) := by
  have hmin : Int64.minValue.toInt = -2 ^ 63 := rfl
  have hmax : Int64.maxValue.toInt = 2 ^ 63 - 1 := rfl
  rw [clamp]
  split_ifs with hlow hhigh
  · omega
  · omega
  · rw [Int64.toInt_ofInt_of_le (by omega) (by omega)]
    omega

/-- A small integer is itself as a 64-bit integer. -/
theorem toInt_clamp {z : ℤ} (hz : z.natAbs < 2 ^ 53) : (clamp z).toInt = z := by
  rw [toInt_clamp_eq]
  omega

namespace HasValue

variable {x : Float} {q : ℚ} {z : ℤ}

/-- The integer and the exponent of a double with a value. -/
theorem exists_parts (h : HasValue x q) :
    ∃ m e : ℤ, parts? x = some (m, e) ∧ (m : ℚ) * (2 : ℚ) ^ e = q := by
  have hvalue := h.value?_eq
  rw [value?, Option.map_eq_some_iff] at hvalue
  obtain ⟨⟨m, e⟩, hparts, hq⟩ := hvalue
  exact ⟨m, e, hparts, hq⟩

/-- The floor of a double is the floor of its value. -/
theorem floor (h : HasValue x q) (hq : ⌊q⌋.natAbs < 2 ^ 53) : HasValue (Binary64.floor x) ⌊q⌋ := by
  obtain ⟨m, e, hparts, hvalue⟩ := h.exists_parts
  rw [Binary64.floor, roundWith, hparts]
  by_cases he : 0 ≤ e
  · simp only [if_pos he]
    rw [← hvalue, ← mul_pow_toNat he, Int.floor_intCast, mul_pow_toNat he, hvalue]
    exact h
  · simp only [if_neg he]
    rw [← hvalue, floor_mul_zpow (by omega)] at hq ⊢
    exact hasValue_ofInt hq

/-- A double whose value is an integer is whole. -/
theorem isWhole (h : HasValue x z) : Binary64.isWhole x = true := by
  obtain ⟨m, e, hparts, hvalue⟩ := h.exists_parts
  rw [Binary64.isWhole, hparts]
  by_cases he : 0 ≤ e
  · simp [he]
  · have hmul := eq_mul_of_mul_zpow (by omega) hvalue
    simp [hmul]

/-- A double whose value is a small integer is this integer. -/
theorem toInt_toInt64 (h : HasValue x z) (hz : z.natAbs < 2 ^ 53) :
    (Binary64.toInt64 x).toInt = z := by
  obtain ⟨m, e, hparts, hvalue⟩ := h.exists_parts
  have hintegral : integral Int.tdiv m e = z := by
    rw [integral]
    by_cases he : 0 ≤ e
    · rw [if_pos he]
      rw [← mul_pow_toNat he] at hvalue
      exact_mod_cast hvalue
    · rw [if_neg he, eq_mul_of_mul_zpow (by omega) hvalue]
      refine Int.mul_tdiv_cancel _ ?_
      rw [pow2_eq]
      positivity
  rw [Binary64.toInt64, hparts]
  show (clamp (integral Int.tdiv m e)).toInt = z
  rw [hintegral]
  exact toInt_clamp hz

/-- A double whose value is below `2 ^ 53` in magnitude may be taken for an integer. -/
theorem abs_lt_wholeLimit (h : HasValue x q) (hq : |q| < 2 ^ 53) : x.abs < Number.wholeLimit := by
  have habs : unpacked x.abs = (Float.Model.pack (unpacked x).abs).unpack := rfl
  have hlt : x.abs < Number.wholeLimit ↔
      UnpackedFloat.lt (unpacked x.abs) (unpacked Number.wholeLimit) = true :=
    decide_eq_true_iff
  rw [hlt, unpacked_wholeLimit]
  cases h with
  | @zero s h =>
      rw [h] at habs
      rw [habs.trans (unpack_pack_zero .positive)]
      rfl
  | @normal s m e hm h hn =>
      rw [h] at habs
      rw [habs.trans (unpack_pack_normal hm hn)]
      rw [abs_signed s hn.scaled_pos.le] at hq
      have he : e < 1 := by
        have hpow : (2 : ℚ) ^ (52 + e) < 2 ^ (53 : ℤ) := hn.le_scaled.trans_lt hq
        have := (zpow_lt_zpow_iff_right₀ (by norm_num)).1 hpow
        omega
      have hcompare : compare e 1 = .lt := Int.compare_eq_lt.2 he
      show (some ((compare e 1).then (compare m (2 ^ 52))) == some Ordering.lt) = true
      rw [hcompare]
      rfl

/-- A double whose value is a small integer becomes this integer in the data format. -/
theorem ofFloat_eq (h : HasValue x z) (hz : z.natAbs < 2 ^ 53) :
    Json.ofFloat x = .num (.int z) := by
  have habs : |(z : ℚ)| < 2 ^ 53 := by
    have : |z| < 2 ^ 53 := by
      rw [abs_lt]
      omega
    exact_mod_cast this
  rw [Json.ofFloat, Number.ofFloat?, h.isWhole]
  simp [h.abs_lt_wholeLimit habs, h.toInt_toInt64 hz]

end HasValue

end SeriesQuery.Binary64
