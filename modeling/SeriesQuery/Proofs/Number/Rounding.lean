import SeriesQuery.Proofs.Number.Unpacked

/-!
# Rounding to doubles

What the rounding of doubles does to exact values. A quotient or a product is first a mantissa with
two more bits for what was cut off; `Residue` says which numbers these bits stand for.
`roundWithAccuracy_near` bounds the error of the whole rounding, and `Near.eq_of_representable` says
that a value which is itself representable is not moved at all.
-/

namespace SeriesQuery.Binary64

open Float.Model Float.Model.UnpackedFloat

/-- The numbers that a mantissa and the two bits of what was cut off stand for. -/
def Residue (em : ExtendedMantissa) (x : ℚ) : Prop :=
  match em.roundBit, em.stickyBit with
  | false, false => x = em.mantissa
  | false, true => em.mantissa < x ∧ x < em.mantissa + 1 / 2
  | true, false => x = em.mantissa + 1 / 2
  | true, true => em.mantissa + 1 / 2 < x ∧ x < em.mantissa + 1

namespace Residue

variable {em : ExtendedMantissa} {x : ℚ}

/-- The mantissa is not above the number. -/
theorem mantissa_le (h : Residue em x) : (em.mantissa : ℚ) ≤ x := by
  obtain ⟨m, round, sticky⟩ := em
  cases round <;> cases sticky <;> simp only [Residue] at h ⊢ <;> linarith

/-- Cutting off one more bit halves the number. -/
theorem shiftRightOne (h : Residue em x) : Residue em.shiftRightOne (x / 2) := by
  obtain ⟨m, round, sticky⟩ := em
  have hdiv : 2 * ((m / 2 : ℕ) : ℚ) + ((m % 2 : ℕ) : ℚ) = m := by
    exact_mod_cast Nat.div_add_mod m 2
  rcases Nat.mod_two_eq_zero_or_one m with hbit | hbit
  · have hnew : ExtendedMantissa.shiftRightOne ⟨m, round, sticky⟩ =
        ⟨m / 2, false, round || sticky⟩ := by
      simp [ExtendedMantissa.shiftRightOne, hbit]
    rw [hbit, Nat.cast_zero] at hdiv
    rw [hnew]
    cases round <;> cases sticky <;> simp only [Residue, Bool.or_true, Bool.or_false] at h ⊢
    · linarith
    · exact ⟨by linarith [h.1], by linarith [h.2]⟩
    · exact ⟨by linarith, by linarith⟩
    · exact ⟨by linarith [h.1], by linarith [h.2]⟩
  · have hnew : ExtendedMantissa.shiftRightOne ⟨m, round, sticky⟩ =
        ⟨m / 2, true, round || sticky⟩ := by
      simp [ExtendedMantissa.shiftRightOne, hbit]
    rw [hbit, Nat.cast_one] at hdiv
    rw [hnew]
    cases round <;> cases sticky <;> simp only [Residue, Bool.or_true, Bool.or_false] at h ⊢
    · linarith
    · exact ⟨by linarith [h.1], by linarith [h.2]⟩
    · exact ⟨by linarith, by linarith⟩
    · exact ⟨by linarith [h.1], by linarith [h.2]⟩

/-- Cutting off bits divides the number by a power of two. -/
theorem shiftRight (h : Residue em x) (k : ℕ) : Residue (em >>> k) (x / 2 ^ k) := by
  induction k with
  | zero =>
      rw [pow_zero, div_one]
      exact h
  | succ k ih =>
      have hstep := ih.shiftRightOne
      rw [div_div, ← pow_succ] at hstep
      exact hstep

/-- The rounded mantissa is at most a half away from the number. -/
theorem roundedMantissa (h : Residue em x) : |(em.roundedMantissa : ℚ) - x| ≤ 1 / 2 := by
  obtain ⟨m, round, sticky⟩ := em
  cases round <;> cases sticky <;>
    simp only [Residue, ExtendedMantissa.roundedMantissa, ExtendedMantissa.accuracy,
      Accuracy.roundToNearestEven] at h ⊢
  · rw [h]
    norm_num
  · exact abs_le.2 ⟨by linarith [h.2], by linarith [h.1]⟩
  · -- a tie goes to the even one of its two neighbours
    rcases Nat.mod_two_eq_zero_or_one m with hbit | hbit <;> rw [hbit, h]
    · norm_num
    · rw [abs_le]
      push_cast
      constructor <;> linarith
  · rw [abs_le]
    push_cast
    exact ⟨by linarith [h.2], by linarith [h.1]⟩

end Residue

/-- The rounded mantissa is the mantissa or the next one. -/
theorem roundedMantissa_bounds (em : ExtendedMantissa) :
    em.mantissa ≤ em.roundedMantissa ∧ em.roundedMantissa ≤ em.mantissa + 1 := by
  obtain ⟨m, round, sticky⟩ := em
  cases round <;> cases sticky <;>
    simp only [ExtendedMantissa.roundedMantissa, ExtendedMantissa.accuracy,
      Accuracy.roundToNearestEven] <;> omega

/-- Bits that are cut off leave the quotient by a power of two. -/
theorem mantissa_shiftRight (em : ExtendedMantissa) (k : ℕ) :
    (em >>> k).mantissa = em.mantissa / 2 ^ k := by
  induction k with
  | zero =>
      rw [pow_zero, Nat.div_one]
      rfl
  | succ k ih =>
      have hstep : (em >>> (k + 1)).mantissa = (em >>> k).mantissa / 2 := rfl
      rw [hstep, ih, Nat.div_div_eq_div_mul, pow_succ]

/-- The mantissa that bits of an accuracy are added to. -/
theorem mantissa_ofMantissaAndAccuracy (m : ℕ) (a : Accuracy) :
    (ExtendedMantissa.ofMantissaAndAccuracy m a).mantissa = m := by
  cases a with
  | exact => rfl
  | inexact o => cases o <;> rfl

/-- A mantissa of at least 53 bits is cut to 53 bits. -/
theorem shiftToTargetExponent_eq {m : ℕ} {e : ℤ} (a : Accuracy) {k : ℕ} (hlog : m.log2 = 52 + k)
    (he : -1074 ≤ e + k) :
    shiftToTargetExponent Format.binary64 m e a =
      (ExtendedMantissa.ofMantissaAndAccuracy m a >>> k, e + k) := by
  have htarget : Format.binary64.targetExponent (totalExponent m e) = e + k := by
    rw [Format.targetExponent, totalExponent, hlog]
    show max (((52 + k : ℕ) : ℤ) + 1 + e - ((1 + 52 : ℕ) : ℤ)) (-1074) = e + k
    push_cast
    omega
  rw [shiftToTargetExponent, htarget, shiftToExponent]
  simp

/-- The bits of a mantissa that is cut to 53 bits. -/
theorem div_pow_bounds {m k : ℕ} (hm : m ≠ 0) (hlog : m.log2 = 52 + k) :
    2 ^ 52 ≤ m / 2 ^ k ∧ m / 2 ^ k < 2 ^ 53 := by
  obtain ⟨hlow, hhigh⟩ := (Nat.log2_eq_iff hm).1 hlog
  constructor
  · rw [Nat.le_div_iff_mul_le (by positivity), ← pow_add]
    exact hlow
  · rw [Nat.div_lt_iff_lt_mul (by positivity), ← pow_add]
    rw [show 53 + k = 52 + k + 1 by omega]
    exact hhigh

/-- A rounded value: its distance to the exact one is at most `2 ^ -53` of each of them. -/
structure Near (y z : ℚ) : Prop where
  /-- The distance compared with the exact value. -/
  le_exact : |z - y| ≤ y / 2 ^ 53
  /-- The distance compared with the rounded value. -/
  le_rounded : |z - y| ≤ z / 2 ^ 53

/-- The value of a mantissa and an exponent. -/
def scaled (m : ℕ) (e : ℤ) : ℚ := m * (2 : ℚ) ^ e

/-- A mantissa of 53 bits that is at most a half away from the exact one is near to it. -/
theorem near_of_mantissa {y u : ℚ} {r : ℕ} (hu : 0 < u) (hr : 2 ^ 52 ≤ r) (hy : 2 ^ 52 * u ≤ y)
    (herror : |(r : ℚ) - y / u| ≤ 1 / 2) : Near y (r * u) := by
  have hrq : (2 : ℚ) ^ 52 ≤ r := by exact_mod_cast hr
  have hscaled : |r * u - y| ≤ u / 2 := by
    have hmul : r * u - y = (r - y / u) * u := by
      rw [sub_mul, div_mul_cancel₀ y hu.ne']
    rw [hmul, abs_mul, abs_of_pos hu]
    calc |(r : ℚ) - y / u| * u ≤ 1 / 2 * u := by gcongr
      _ = u / 2 := by ring
  constructor
  · calc |r * u - y| ≤ u / 2 := hscaled
      _ = 2 ^ 52 * u / 2 ^ 53 := by ring
      _ ≤ y / 2 ^ 53 := by gcongr
  · calc |r * u - y| ≤ u / 2 := hscaled
      _ = 2 ^ 52 * u / 2 ^ 53 := by ring
      _ ≤ r * u / 2 ^ 53 := by gcongr

/-- Rounding cuts the mantissa, rounds it, and cuts it once more if it got too long. -/
theorem roundWithAccuracy_eq {s : Sign} {m : ℕ} {e e₁ e₂ : ℤ} {a : Accuracy}
    {em₁ em₂ : ExtendedMantissa}
    (hfirst : shiftToTargetExponent Format.binary64 m e a = (em₁, e₁))
    (hsecond : shiftToTargetExponent Format.binary64 em₁.roundedMantissa e₁ .exact = (em₂, e₂))
    (hpos : 0 < em₂.mantissa) :
    roundWithAccuracy Format.binary64 s m e a = .finite s em₂.mantissa e₂ hpos := by
  simp only [roundWithAccuracy, hfirst, hsecond, hpos.ne', dite_false]

/-- Rounding a mantissa of at least 53 bits gives a normal number, which has the value of the
mantissa that is cut to 53 bits and rounded. -/
theorem roundWithAccuracy_value {s : Sign} {m : ℕ} {e : ℤ} {a : Accuracy} {k : ℕ} (hm : m ≠ 0)
    (hlog : m.log2 = 52 + k) (hlow : -1074 ≤ e + k) (hhigh : e + k ≤ 970) :
    ∃ r t, ∃ hr : 0 < r, roundWithAccuracy Format.binary64 s m e a = .finite s r t hr ∧
      IsNormal r t ∧
      scaled r t =
        scaled (ExtendedMantissa.ofMantissaAndAccuracy m a >>> k).roundedMantissa (e + k) := by
  have hfirst := shiftToTargetExponent_eq a hlog hlow
  have hmantissa := mantissa_shiftRight (ExtendedMantissa.ofMantissaAndAccuracy m a) k
  rw [mantissa_ofMantissaAndAccuracy] at hmantissa
  have hbits := div_pow_bounds hm hlog
  generalize ExtendedMantissa.ofMantissaAndAccuracy m a >>> k = em at hfirst hmantissa ⊢
  rw [← hmantissa] at hbits
  -- the second cut keeps the value of the rounded mantissa
  obtain ⟨hge, hle⟩ := roundedMantissa_bounds em
  by_cases hlong : em.roundedMantissa < 2 ^ 53
  · have hlog₁ : em.roundedMantissa.log2 = 52 + 0 :=
      (Nat.log2_eq_iff (by omega)).2 ⟨by omega, hlong⟩
    have hsecond := shiftToTargetExponent_eq .exact hlog₁ (e := e + k) (by simpa using hlow)
    have hsame := mantissa_shiftRight
      (ExtendedMantissa.ofMantissaAndAccuracy em.roundedMantissa .exact) 0
    rw [pow_zero, Nat.div_one, mantissa_ofMantissaAndAccuracy] at hsame
    generalize ExtendedMantissa.ofMantissaAndAccuracy em.roundedMantissa .exact >>> 0 = em₂
      at hsecond hsame
    refine ⟨em₂.mantissa, _, by omega, roundWithAccuracy_eq hfirst hsecond (by omega),
      ⟨by omega, by omega, by omega, by omega⟩, ?_⟩
    rw [hsame, Nat.cast_zero, add_zero]
  · -- rounding gave a power of two with one bit too many
    have hpower : em.roundedMantissa = 2 ^ 53 := by omega
    have hlog₁ : em.roundedMantissa.log2 = 52 + 1 := by rw [hpower]; decide
    have hsecond := shiftToTargetExponent_eq .exact hlog₁ (e := e + k) (by omega)
    have hhalf := mantissa_shiftRight
      (ExtendedMantissa.ofMantissaAndAccuracy em.roundedMantissa .exact) 1
    rw [mantissa_ofMantissaAndAccuracy] at hhalf
    generalize ExtendedMantissa.ofMantissaAndAccuracy em.roundedMantissa .exact >>> 1 = em₂
      at hsecond hhalf
    rw [hpower] at hhalf
    refine ⟨em₂.mantissa, _, by omega, roundWithAccuracy_eq hfirst hsecond (by omega),
      ⟨by omega, by omega, by omega, by omega⟩, ?_⟩
    rw [scaled, scaled, hhalf, hpower, Nat.cast_one, zpow_add₀ (by norm_num), zpow_one]
    norm_num
    ring

/-- Cutting a mantissa to 53 bits leaves what its exact value stands for at the new exponent. -/
theorem residue_shiftRight {m : ℕ} {e : ℤ} {a : Accuracy} {y : ℚ} (k : ℕ)
    (hy : Residue (ExtendedMantissa.ofMantissaAndAccuracy m a) (y / (2 : ℚ) ^ e)) :
    Residue (ExtendedMantissa.ofMantissaAndAccuracy m a >>> k) (y / (2 : ℚ) ^ (e + k)) := by
  have hshift := hy.shiftRight k
  rwa [div_div, ← zpow_natCast, ← zpow_add₀ (by norm_num)] at hshift

/-- Rounding a mantissa of at least 53 bits gives a normal number near to the exact value. -/
theorem roundWithAccuracy_near {s : Sign} {m : ℕ} {e : ℤ} {a : Accuracy} {y : ℚ} {k : ℕ}
    (hm : m ≠ 0) (hlog : m.log2 = 52 + k) (hlow : -1074 ≤ e + k) (hhigh : e + k ≤ 970)
    (hy : Residue (ExtendedMantissa.ofMantissaAndAccuracy m a) (y / (2 : ℚ) ^ e)) :
    ∃ r t, ∃ hr : 0 < r, roundWithAccuracy Format.binary64 s m e a = .finite s r t hr ∧
      IsNormal r t ∧ Near y (scaled r t) := by
  obtain ⟨r, t, hr, hround, hnormal, hvalue⟩ :=
    roundWithAccuracy_value (s := s) (a := a) hm hlog hlow hhigh
  refine ⟨r, t, hr, hround, hnormal, ?_⟩
  have hresidue := residue_shiftRight k hy
  have hmantissa := mantissa_shiftRight (ExtendedMantissa.ofMantissaAndAccuracy m a) k
  rw [mantissa_ofMantissaAndAccuracy] at hmantissa
  have hbits := (div_pow_bounds hm hlog).1
  rw [← hmantissa] at hbits
  have hexact : 2 ^ 52 * (2 : ℚ) ^ (e + k) ≤ y := by
    rw [← le_div_iff₀ (by positivity)]
    exact le_trans (by exact_mod_cast hbits) hresidue.mantissa_le
  rw [hvalue]
  exact near_of_mantissa (by positivity) (hbits.trans (roundedMantissa_bounds _).1) hexact
    hresidue.roundedMantissa

/-- Whether a number that is not negative is a mantissa of at most 53 bits with some exponent. -/
def Representable (q : ℚ) : Prop := ∃ m e, m < 2 ^ 53 ∧ scaled m e = q

/-- A normal number is representable. -/
theorem IsNormal.representable {m : ℕ} {e : ℤ} (h : IsNormal m e) : Representable (scaled m e) :=
  ⟨m, e, h.mantissa_lt, rfl⟩

/-- The natural numbers up to `2 ^ 53` are representable. -/
theorem representable_nat {n : ℕ} (hn : n ≤ 2 ^ 53) : Representable n := by
  rcases Nat.lt_or_eq_of_le hn with hlt | rfl
  · exact ⟨n, 0, hlt, by simp [scaled]⟩
  · exact ⟨2 ^ 52, 1, by decide, by norm_num [scaled]⟩

/-- A whole number and its multiple are representable where the multiple is at most `2 ^ 53`. -/
theorem representable_multiple {n w : ℕ} (hw : 0 < w) (h : (n : ℚ) * w ≤ 2 ^ 53) :
    Representable n ∧ Representable (n * w) := by
  have hnw : n * w ≤ 2 ^ 53 := by exact_mod_cast h
  have hmultiple := representable_nat hnw
  rw [Nat.cast_mul] at hmultiple
  exact ⟨representable_nat ((Nat.le_mul_of_pos_right n hw).trans hnw), hmultiple⟩

/-- Two different multiples of one unit are at least the unit apart. -/
theorem gap_of_unit {a b : ℕ} {u : ℚ} (hu : 0 < u) (ha : a < 2 ^ 53) (hlt : a < b) :
    a * u / 2 ^ 53 < b * u - a * u := by
  have haq : (a : ℚ) < 2 ^ 53 := by exact_mod_cast ha
  have hstep : (a : ℚ) + 1 ≤ b := by exact_mod_cast hlt
  calc (a : ℚ) * u / 2 ^ 53 < 2 ^ 53 * u / 2 ^ 53 := by gcongr
    _ = (a + 1) * u - a * u := by ring
    _ ≤ b * u - a * u := by gcongr

/-- The gap above a representable number is more than `2 ^ -53` of it. -/
theorem Representable.gap {p q : ℚ} (hp : Representable p) (hq : Representable q) (hlt : p < q) :
    p / 2 ^ 53 < q - p := by
  obtain ⟨m, e, hm, rfl⟩ := hp
  obtain ⟨n, f, hn, rfl⟩ := hq
  -- both are multiples of the smaller of their units
  rcases le_total e f with hef | hef
  · obtain ⟨k, rfl⟩ := Int.le.dest hef
    have hu : (0 : ℚ) < 2 ^ e := by positivity
    have hscaled : scaled n (e + k) = ((n * 2 ^ k : ℕ) : ℚ) * 2 ^ e := by
      rw [scaled, zpow_add₀ (by norm_num), zpow_natCast]
      push_cast
      ring
    rw [hscaled] at hlt ⊢
    rw [scaled] at hlt ⊢
    exact gap_of_unit hu hm (by exact_mod_cast lt_of_mul_lt_mul_right hlt hu.le)
  · obtain ⟨k, rfl⟩ := Int.le.dest hef
    have hu : (0 : ℚ) < 2 ^ f := by positivity
    have hscaled : scaled m (f + k) = ((m * 2 ^ k : ℕ) : ℚ) * 2 ^ f := by
      rw [scaled, zpow_add₀ (by norm_num), zpow_natCast]
      push_cast
      ring
    rw [hscaled] at hlt ⊢
    rw [scaled] at hlt ⊢
    have hmn : m * 2 ^ k < n := by exact_mod_cast lt_of_mul_lt_mul_right hlt hu.le
    exact gap_of_unit hu (hmn.trans hn) hmn

namespace Near

variable {y z : ℚ}

/-- A representable number is rounded to itself. -/
theorem eq_of_representable (h : Near y z) (hy : Representable y) (hz : Representable z) :
    z = y := by
  rcases lt_trichotomy y z with hlt | heq | hlt
  · -- the gap to the next representable number is wider than the error
    have hgap := hy.gap hz hlt
    have hle := h.le_exact
    rw [abs_of_pos (sub_pos.2 hlt)] at hle
    linarith
  · exact heq.symm
  · have hgap := hz.gap hy hlt
    have hle := h.le_rounded
    rw [abs_of_neg (sub_neg.2 hlt)] at hle
    linarith

variable {n : ℚ}

/-- Rounding passes over no representable number upwards. -/
theorem le_of_le (h : Near y z) (hz : Representable z) (hn : Representable n) (hle : y ≤ n) :
    z ≤ n := by
  by_contra hlt
  have hgap := hn.gap hz (not_le.1 hlt)
  have hdist := (le_abs_self (z - y)).trans h.le_exact
  have hscale : y / 2 ^ 53 ≤ n / 2 ^ 53 := by gcongr
  linarith

/-- Rounding passes over no representable number downwards. -/
theorem ge_of_ge (h : Near y z) (hz : Representable z) (hn : Representable n) (hle : n ≤ y) :
    n ≤ z := by
  by_contra hlt
  have hgap := hz.gap hn (not_le.1 hlt)
  have hdist := (neg_abs_le (z - y))
  have hbound := h.le_rounded
  linarith

/-- A quotient is rounded to a number only if it is that number, where the multiple of the divisor
is representable. -/
theorem eq_of_quotient {x w : ℚ} (hw : 0 < w) (h : Near (x / w) n) (hx : Representable x)
    (hn : Representable (n * w)) : n * w = x := by
  have hmul : |n * w - x| = |n - x / w| * w := by
    rw [← abs_of_pos hw, ← abs_mul, abs_of_pos hw, sub_mul, div_mul_cancel₀ x hw.ne']
  refine eq_of_representable ⟨?_, ?_⟩ hx hn
  · calc |n * w - x| = |n - x / w| * w := hmul
      _ ≤ x / w / 2 ^ 53 * w := by
          gcongr
          exact h.le_exact
      _ = x / 2 ^ 53 := by
          field_simp
  · calc |n * w - x| = |n - x / w| * w := hmul
      _ ≤ n / 2 ^ 53 * w := by
          gcongr
          exact h.le_rounded
      _ = n * w / 2 ^ 53 := by ring

/-- A quotient below a number is rounded to one below it. -/
theorem lt_of_quotient_lt {x w : ℚ} (hw : 0 < w) (h : Near (x / w) z) (hx : Representable x)
    (hz : Representable z) (hn : Representable n) (hnw : Representable (n * w))
    (hlt : x / w < n) : z < n := by
  refine lt_of_le_of_ne (h.le_of_le hz hn hlt.le) ?_
  rintro rfl
  have heq := eq_of_quotient hw h hx hnw
  rw [div_lt_iff₀ hw] at hlt
  exact absurd heq hlt.ne'

/-- A quotient above a number is rounded to one above it. -/
theorem gt_of_quotient_gt {x w : ℚ} (hw : 0 < w) (h : Near (x / w) z) (hx : Representable x)
    (hz : Representable z) (hn : Representable n) (hnw : Representable (n * w))
    (hlt : n < x / w) : n < z := by
  refine lt_of_le_of_ne (h.ge_of_ge hz hn hlt.le) ?_
  rintro rfl
  have heq := eq_of_quotient hw h hx hnw
  rw [lt_div_iff₀ hw] at hlt
  exact absurd heq hlt.ne

/-- The floor of a quotient is that of the rounded quotient, where dividend and divisor are at most
`2 ^ 52`. -/
theorem floor_quotient {x : ℚ} {w : ℕ} (hw : 0 < w) (h : Near (x / w) z) (hx : Representable x)
    (hz : Representable z) (hpos : 0 ≤ x) (hxle : x ≤ 2 ^ 52) (hwle : w ≤ 2 ^ 52) :
    ⌊z⌋ = ⌊x / w⌋ := by
  have hwq : (0 : ℚ) < w := by exact_mod_cast hw
  have hwideq : (w : ℚ) ≤ 2 ^ 52 := by exact_mod_cast hwle
  obtain ⟨n, hn⟩ := Int.eq_ofNat_of_zero_le (Int.floor_nonneg.2 (show 0 ≤ x / w by positivity))
  obtain ⟨hle, hlt⟩ := Int.floor_eq_iff.1 hn
  rw [Int.cast_natCast] at hle hlt
  have hbelow : (n : ℚ) * w ≤ x := (le_div_iff₀ hwq).1 hle
  have habove : ((n + 1 : ℕ) : ℚ) * w ≤ 2 ^ 53 := by
    push_cast
    linarith
  obtain ⟨hrep₀, _⟩ := representable_multiple hw (show (n : ℚ) * w ≤ 2 ^ 53 by linarith)
  obtain ⟨hrep₁, hmul₁⟩ := representable_multiple hw habove
  have hz₁ := h.lt_of_quotient_lt hwq hx hz hrep₁ hmul₁ (by push_cast; exact hlt)
  rw [hn, Int.floor_eq_iff, Int.cast_natCast]
  exact ⟨h.ge_of_ge hz hrep₀ hle, by push_cast at hz₁; exact hz₁⟩

/-- The ceiling of a quotient is that of the rounded quotient, where dividend and divisor are at most
`2 ^ 52`. -/
theorem ceil_quotient {x : ℚ} {w : ℕ} (hw : 0 < w) (h : Near (x / w) z) (hx : Representable x)
    (hz : Representable z) (hpos : 0 ≤ x) (hxle : x ≤ 2 ^ 52) (hwle : w ≤ 2 ^ 52) :
    ⌈z⌉ = ⌈x / w⌉ := by
  have hwq : (0 : ℚ) < w := by exact_mod_cast hw
  have hwideq : (w : ℚ) ≤ 2 ^ 52 := by exact_mod_cast hwle
  have hy : 0 ≤ x / w := by positivity
  obtain ⟨c, hc⟩ := Int.eq_ofNat_of_zero_le (Int.ceil_nonneg hy)
  obtain ⟨hlt, hle⟩ := Int.ceil_eq_iff.1 hc
  rw [Int.cast_natCast] at hle hlt
  have habove : (c : ℚ) * w ≤ 2 ^ 53 := by
    have hlt' : (c : ℚ) < x / w + 1 := by linarith
    have hmul : (c : ℚ) * w ≤ (x / w + 1) * w := by gcongr
    rw [add_mul, div_mul_cancel₀ x hwq.ne', one_mul] at hmul
    linarith
  obtain ⟨hrep₁, _⟩ := representable_multiple hw habove
  rw [hc, Int.ceil_eq_iff, Int.cast_natCast]
  refine ⟨?_, h.le_of_le hz hrep₁ hle⟩
  cases c with
  | zero =>
      have hzero := h.ge_of_ge hz (representable_nat (Nat.zero_le _)) (by simpa using hy)
      push_cast at hzero ⊢
      linarith
  | succ k =>
      push_cast at hlt ⊢
      rw [add_sub_cancel_right] at hlt ⊢
      have hbelow : (k : ℚ) * w < x := (lt_div_iff₀ hwq).1 hlt
      obtain ⟨hrep₀, hmul₀⟩ := representable_multiple hw (show (k : ℚ) * w ≤ 2 ^ 53 by linarith)
      exact h.gt_of_quotient_gt hwq hx hz hrep₀ hmul₀ hlt

end Near

end SeriesQuery.Binary64
