import SeriesQuery.Number
import SeriesQuery.Proofs.Number.Rounding

/-!
# Arithmetic of doubles on exact values

`HasValue x q` says that a double is a zero or a normal number, and which rational number it is. For
such doubles this module says what the operations give that the buckets of a time series are made
with: whole numbers below `2 ^ 53` and their products are exact, and the floor of a rounded quotient
is the floor of the quotient.
-/

namespace SeriesQuery.Binary64

open Float.Model Float.Model.UnpackedFloat

/-- The exact value of a finite double. -/
def value? (x : Float) : Option ℚ := (parts? x).map fun (z, e) => (z : ℚ) * (2 : ℚ) ^ e

/-- A number with a sign. -/
def signed (s : Sign) (q : ℚ) : ℚ :=
  match s with
  | .positive => q
  | .negative => -q

/-- A double that is a zero or a normal number, with its value. -/
inductive HasValue (x : Float) : ℚ → Prop where
  /-- A zero of either sign. -/
  | zero {s : Sign} (h : unpacked x = .zero s) : HasValue x 0
  /-- A normal number. -/
  | normal {s : Sign} {m : ℕ} {e : ℤ} {hm : 0 < m} (h : unpacked x = .finite s m e hm)
      (hn : IsNormal m e) : HasValue x (signed s (scaled m e))

/-- The integer of a finite double is its mantissa with its sign. -/
theorem apply_mul_zpow (s : Sign) (m : ℕ) (e : ℤ) :
    ((s.apply m : ℤ) : ℚ) * (2 : ℚ) ^ e = signed s (scaled m e) := by
  cases s <;> simp [Sign.apply, signed, scaled]

/-- A normal number is positive. -/
theorem IsNormal.scaled_pos {m : ℕ} {e : ℤ} (h : IsNormal m e) : 0 < scaled m e := by
  have hm : (0 : ℚ) < m := by
    exact_mod_cast (show 0 < 2 ^ 52 by decide).trans_le h.le_mantissa
  unfold scaled
  positivity

/-- A normal number has at least 53 bits before its exponent. -/
theorem IsNormal.le_scaled {m : ℕ} {e : ℤ} (h : IsNormal m e) : (2 : ℚ) ^ (52 + e) ≤ scaled m e := by
  rw [scaled, zpow_add₀ (by norm_num)]
  gcongr
  exact_mod_cast h.le_mantissa

/-- A normal number has at most 53 bits before its exponent. -/
theorem IsNormal.scaled_lt {m : ℕ} {e : ℤ} (h : IsNormal m e) : scaled m e < (2 : ℚ) ^ (53 + e) := by
  rw [scaled, zpow_add₀ (by norm_num)]
  gcongr
  exact_mod_cast h.mantissa_lt

/-- The exponent of a normal number from 1 to `2 ^ 53`. -/
theorem IsNormal.exponent_bounds {m : ℕ} {e : ℤ} (h : IsNormal m e) (hlow : 1 ≤ scaled m e)
    (hhigh : scaled m e ≤ 2 ^ 53) : -52 ≤ e ∧ e ≤ 1 := by
  constructor
  · have hone : (2 : ℚ) ^ (0 : ℤ) < 2 ^ (53 + e) := by
      rw [zpow_zero]
      exact hlow.trans_lt h.scaled_lt
    have := (zpow_lt_zpow_iff_right₀ (by norm_num)).1 hone
    omega
  · have hpow : (2 : ℚ) ^ (52 + e) ≤ 2 ^ (53 : ℤ) := h.le_scaled.trans hhigh
    have := (zpow_le_zpow_iff_right₀ (by norm_num)).1 hpow
    omega

/-- Zero and the numbers from 1 to `2 ^ 52` in magnitude. -/
def InDomain (q : ℚ) : Prop := q = 0 ∨ 1 ≤ |q| ∧ |q| ≤ 2 ^ 52

/-- The numbers of the domain are at most `2 ^ 52`. -/
theorem InDomain.abs_le {q : ℚ} (h : InDomain q) : |q| ≤ 2 ^ 52 := by
  rcases h with rfl | ⟨_, hle⟩
  · norm_num
  · exact hle

/-- The integers up to `2 ^ 52` are in the domain. -/
theorem inDomain_intCast {z : ℤ} (hz : z.natAbs ≤ 2 ^ 52) : InDomain z := by
  by_cases hzero : z = 0
  · exact .inl (by exact_mod_cast hzero)
  · have hle : |z| ≤ 2 ^ 52 := abs_le.2 (by omega)
    exact .inr ⟨by exact_mod_cast Int.one_le_abs hzero, by exact_mod_cast hle⟩

/-- The floor of a number up to `2 ^ 52` is an integer up to `2 ^ 52`. -/
theorem natAbs_floor_le {q : ℚ} (h : |q| ≤ 2 ^ 52) : ⌊q⌋.natAbs ≤ 2 ^ 52 := by
  obtain ⟨hlow, hhigh⟩ := abs_le.1 h
  have hbelow : -2 ^ 52 ≤ ⌊q⌋ := Int.le_floor.2 (by push_cast; exact hlow)
  have habove : ((⌊q⌋ : ℤ) : ℚ) ≤ 2 ^ 52 := (Int.floor_le q).trans hhigh
  have : ⌊q⌋ ≤ 2 ^ 52 := by exact_mod_cast habove
  omega

namespace HasValue

variable {x : Float} {q : ℚ}

/-- The value of a double with a value. -/
theorem value?_eq (h : HasValue x q) : value? x = some q := by
  cases h with
  | zero h => simp [value?, parts?_eq, h, unpackedParts?]
  | normal h hn => simp [value?, parts?_eq, h, unpackedParts?, apply_mul_zpow]

end HasValue

/-- The absolute value of a number with a sign. -/
theorem abs_signed (s : Sign) {q : ℚ} (hq : 0 ≤ q) : |signed s q| = q := by
  cases s <;> simp [signed, abs_of_nonneg hq]

/-- A normal number whose value is in the domain is from 1 to `2 ^ 52`. -/
theorem IsNormal.scaled_bounds {s : Sign} {m : ℕ} {e : ℤ} (hn : IsNormal m e)
    (h : InDomain (signed s (scaled m e))) : 1 ≤ scaled m e ∧ scaled m e ≤ 2 ^ 52 := by
  have habs := abs_signed s hn.scaled_pos.le
  rcases h with hzero | hbounds
  · rw [hzero, abs_zero] at habs
    exact absurd habs hn.scaled_pos.ne
  · rwa [habs] at hbounds

/-- The exponent of a normal number whose value is in the domain. -/
theorem IsNormal.exponent_bounds_of_inDomain {s : Sign} {m : ℕ} {e : ℤ} (hn : IsNormal m e)
    (h : InDomain (signed s (scaled m e))) : -52 ≤ e ∧ e ≤ 1 := by
  obtain ⟨hlow, hhigh⟩ := hn.scaled_bounds h
  exact hn.exponent_bounds hlow (hhigh.trans (by norm_num))

/-- The numbers below the normal ones are far below 1. -/
theorem scaled_subnormal_lt {m : ℕ} (hm : m < 2 ^ 53) : scaled m (-1074) < 1 := by
  have hmq : (m : ℚ) < 2 ^ 53 := by exact_mod_cast hm
  calc scaled m (-1074) < 2 ^ 53 * (2 : ℚ) ^ (-1074 : ℤ) := by
        unfold scaled
        gcongr
    _ = (2 : ℚ) ^ (53 + -1074 : ℤ) := by
        rw [zpow_add₀ (by norm_num)]
        rfl
    _ ≤ 1 := zpow_le_one_of_nonpos₀ (by norm_num) (by norm_num)

/-- A finite double that is zero or at least 1 in magnitude has its value. -/
theorem hasValue_of_value? {x : Float} {q : ℚ} (h : value? x = some q) (hq : q = 0 ∨ 1 ≤ |q|) :
    HasValue x q := by
  rw [value?, parts?_eq] at h
  cases hx : unpacked x with
  | infinity s => simp [hx, unpackedParts?] at h
  | notANumber => simp [hx, unpackedParts?] at h
  | zero s =>
      obtain rfl : 0 = q := by simpa [hx, unpackedParts?] using h
      exact .zero hx
  | finite s m e hm =>
      obtain rfl : signed s (scaled m e) = q := by
        simpa [hx, unpackedParts?, apply_mul_zpow] using h
      obtain ⟨hlt, hmin, hmax, hshape⟩ := bounds_of_unpacked hx
      have hpos : 0 < scaled m e := by
        have hmq : (0 : ℚ) < m := by exact_mod_cast hm
        unfold scaled
        positivity
      refine .normal hx ⟨?_, hlt, hmin, hmax⟩
      rcases hshape with hnormal | rfl
      · exact hnormal
      · -- a subnormal number is neither zero nor at least 1
        have habs := abs_signed s hpos.le
        rcases hq with hzero | hone
        · rw [hzero, abs_zero] at habs
          exact absurd habs hpos.ne
        · rw [habs] at hone
          exact absurd hone (not_le.2 (scaled_subnormal_lt hlt))

/-- What is left of a division stands for its fraction. -/
theorem residue_fraction (n : ℕ) {d : ℕ} (hd : 0 < d) :
    Residue (ExtendedMantissa.ofMantissaAndAccuracy (n / d) (accuracyOfFraction (n % d) d))
      ((n : ℚ) / d) := by
  have hdq : (0 : ℚ) < d := by exact_mod_cast hd
  have hlt : ((n % d : ℕ) : ℚ) < d := by exact_mod_cast Nat.mod_lt n hd
  have hsplit : (n : ℚ) / d = (n / d : ℕ) + ((n % d : ℕ) : ℚ) / d := by
    rw [eq_comm, ← eq_sub_iff_add_eq', div_eq_iff hdq.ne', sub_mul, div_mul_cancel₀ _ hdq.ne']
    have := Nat.div_add_mod n d
    rw [eq_sub_iff_add_eq']
    exact_mod_cast (by rw [Nat.mul_comm]; exact this)
  rw [hsplit, accuracyOfFraction]
  by_cases hzero : n % d = 0
  · rw [if_pos hzero, hzero]
    simp [ExtendedMantissa.ofMantissaAndAccuracy, Residue]
  · rw [if_neg hzero]
    have hpos : (0 : ℚ) < (n % d : ℕ) := by exact_mod_cast Nat.pos_of_ne_zero hzero
    have hfraction : 0 < ((n % d : ℕ) : ℚ) / d := by positivity
    rcases Nat.lt_trichotomy (2 * (n % d)) d with hcompare | hcompare | hcompare
    · have hhalf : ((n % d : ℕ) : ℚ) / d < 1 / 2 := by
        rw [div_lt_div_iff₀ hdq (by norm_num)]
        exact_mod_cast (by omega : n % d * 2 < 1 * d)
      rw [Nat.compare_eq_lt.2 hcompare]
      show ((n / d : ℕ) : ℚ) < _ ∧ _ < ((n / d : ℕ) : ℚ) + 1 / 2
      constructor <;> linarith
    · have hhalf : ((n % d : ℕ) : ℚ) / d = 1 / 2 := by
        rw [div_eq_div_iff hdq.ne' (by norm_num)]
        exact_mod_cast (by omega : n % d * 2 = 1 * d)
      rw [Nat.compare_eq_eq.2 hcompare, hhalf]
      rfl
    · have hhalf : 1 / 2 < ((n % d : ℕ) : ℚ) / d := by
        rw [div_lt_div_iff₀ (by norm_num) hdq]
        exact_mod_cast (by omega : 1 * d < n % d * 2)
      have hone : ((n % d : ℕ) : ℚ) / d < 1 := (div_lt_one hdq).2 hlt
      rw [Nat.compare_eq_gt.2 hcompare]
      show ((n / d : ℕ) : ℚ) + 1 / 2 < _ ∧ _ < ((n / d : ℕ) : ℚ) + 1
      constructor <;> linarith

/-- A normal mantissa has 53 bits. -/
theorem IsNormal.log2_mantissa {m : ℕ} {e : ℤ} (h : IsNormal m e) : m.log2 = 52 :=
  (Nat.log2_eq_iff (by have := h.le_mantissa; omega)).2 ⟨h.le_mantissa, h.mantissa_lt⟩

/-- The division of normal numbers takes 53 more bits of the dividend. -/
theorem divCore_eq {m₁ m₂ : ℕ} {e₁ e₂ : ℤ} (h₁ : IsNormal m₁ e₁) (h₂ : IsNormal m₂ e₂)
    (hlow : -1021 ≤ e₁ - e₂) :
    divCore Format.binary64 m₁ e₁ m₂ e₂ =
      (m₁ * 2 ^ 53 / m₂, e₁ - e₂ - 53, accuracyOfFraction (m₁ * 2 ^ 53 % m₂) m₂) := by
  have htarget : min (e₁ - e₂)
      (Format.binary64.targetExponent (totalExponent m₁ e₁ - totalExponent m₂ e₂)) =
        e₁ - e₂ - 53 := by
    rw [Format.targetExponent, totalExponent, totalExponent, h₁.log2_mantissa, h₂.log2_mantissa]
    show min (e₁ - e₂) (max (_ - ((1 + 52 : ℕ) : ℤ)) (-1074)) = _
    push_cast
    omega
  have hshift : (e₁ - e₂ - (e₁ - e₂ - 53)).toNat = 53 := by omega
  rw [divCore]
  simp only [htarget, hshift, Nat.shiftLeft_eq]

/-- The quotient of two mantissas of 53 bits, with 53 more bits, has 53 or 54 bits. -/
theorem log2_quotient {m₁ m₂ : ℕ} {e₁ e₂ : ℤ} (h₁ : IsNormal m₁ e₁) (h₂ : IsNormal m₂ e₂) :
    ∃ k, k ≤ 1 ∧ (m₁ * 2 ^ 53 / m₂).log2 = 52 + k := by
  have hpos : 0 < m₂ := (by decide : 0 < 2 ^ 52).trans_le h₂.le_mantissa
  have hlow : 2 ^ 52 ≤ m₁ * 2 ^ 53 / m₂ := by
    rw [Nat.le_div_iff_mul_le hpos]
    have := h₁.le_mantissa
    have := h₂.mantissa_lt
    omega
  have hhigh : m₁ * 2 ^ 53 / m₂ < 2 ^ 54 := by
    rw [Nat.div_lt_iff_lt_mul hpos]
    have := h₁.mantissa_lt
    have := h₂.le_mantissa
    omega
  by_cases hshort : m₁ * 2 ^ 53 / m₂ < 2 ^ 53
  · exact ⟨0, by omega, (Nat.log2_eq_iff (by omega)).2 ⟨by omega, by omega⟩⟩
  · exact ⟨1, by omega, (Nat.log2_eq_iff (by omega)).2 ⟨by omega, by omega⟩⟩

/-- The quotient of two normal numbers whose exponents are not far apart is near to the exact
quotient. -/
theorem unpacked_div {x y : Float} {s₁ s₂ : Sign} {m₁ m₂ : ℕ} {e₁ e₂ : ℤ} {h₁ : 0 < m₁}
    {h₂ : 0 < m₂} (hx : unpacked x = .finite s₁ m₁ e₁ h₁) (hy : unpacked y = .finite s₂ m₂ e₂ h₂)
    (hn₁ : IsNormal m₁ e₁) (hn₂ : IsNormal m₂ e₂) (hlow : -1021 ≤ e₁ - e₂)
    (hhigh : e₁ - e₂ ≤ 1022) :
    ∃ r t, ∃ hr : 0 < r, unpacked (x / y) = .finite (s₁ / s₂) r t hr ∧ IsNormal r t ∧
      Near (scaled m₁ e₁ / scaled m₂ e₂) (scaled r t) := by
  have hresidue : Residue (ExtendedMantissa.ofMantissaAndAccuracy (m₁ * 2 ^ 53 / m₂)
      (accuracyOfFraction (m₁ * 2 ^ 53 % m₂) m₂))
        (scaled m₁ e₁ / scaled m₂ e₂ / (2 : ℚ) ^ (e₁ - e₂ - 53)) := by
    have hpos : (0 : ℚ) < m₂ := by exact_mod_cast h₂
    have hvalue : scaled m₁ e₁ / scaled m₂ e₂ / (2 : ℚ) ^ (e₁ - e₂ - 53) =
        ((m₁ * 2 ^ 53 : ℕ) : ℚ) / m₂ := by
      rw [scaled, scaled, zpow_sub₀ (by norm_num), zpow_sub₀ (by norm_num)]
      push_cast
      field_simp
    rw [hvalue]
    exact residue_fraction _ h₂
  obtain ⟨k, hk, hlog⟩ := log2_quotient hn₁ hn₂
  have hne : m₁ * 2 ^ 53 / m₂ ≠ 0 := by
    intro hzero
    rw [hzero, Nat.log2_zero] at hlog
    omega
  obtain ⟨r, t, hr, hround, hnormal, hnear⟩ :=
    roundWithAccuracy_near (s := s₁ / s₂) hne hlog (by omega) (by omega) hresidue
  refine ⟨r, t, hr, ?_, hnormal, hnear⟩
  have hdiv : unpacked (x / y) =
      (Float.Model.pack (UnpackedFloat.div Format.binary64 (unpacked x) (unpacked y))).unpack := rfl
  rw [hdiv, hx, hy, UnpackedFloat.div, divCore_eq hn₁ hn₂ hlow]
  simp only [hround]
  exact unpack_pack_normal hr hnormal

/-- A mantissa of at least 53 bits whose value is representable is rounded to this value. -/
theorem roundWithAccuracy_exact {s : Sign} {m : ℕ} {e : ℤ} {k : ℕ} (hm : m ≠ 0)
    (hlog : m.log2 = 52 + k) (hlow : -1074 ≤ e + k) (hhigh : e + k ≤ 970)
    (hrep : Representable (scaled m e)) :
    ∃ r t, ∃ hr : 0 < r, roundWithAccuracy Format.binary64 s m e .exact = .finite s r t hr ∧
      IsNormal r t ∧ scaled r t = scaled m e := by
  have hresidue : Residue (ExtendedMantissa.ofMantissaAndAccuracy m .exact)
      (scaled m e / (2 : ℚ) ^ e) := by
    show scaled m e / (2 : ℚ) ^ e = m
    rw [scaled, mul_div_assoc, div_self (by positivity), mul_one]
  obtain ⟨r, t, hr, hround, hnormal, hnear⟩ :=
    roundWithAccuracy_near (s := s) hm hlog hlow hhigh hresidue
  exact ⟨r, t, hr, hround, hnormal, hnear.eq_of_representable hrep hnormal.representable⟩

/-- The product of two normal numbers is exact where it is representable. -/
theorem unpacked_mul {x y : Float} {s₁ s₂ : Sign} {m₁ m₂ : ℕ} {e₁ e₂ : ℤ} {h₁ : 0 < m₁}
    {h₂ : 0 < m₂} (hx : unpacked x = .finite s₁ m₁ e₁ h₁) (hy : unpacked y = .finite s₂ m₂ e₂ h₂)
    (hn₁ : IsNormal m₁ e₁) (hn₂ : IsNormal m₂ e₂) (hlow : -1126 ≤ e₁ + e₂)
    (hhigh : e₁ + e₂ ≤ 917) (hrep : Representable (scaled m₁ e₁ * scaled m₂ e₂)) :
    ∃ r t, ∃ hr : 0 < r, unpacked (x * y) = .finite (s₁ * s₂) r t hr ∧ IsNormal r t ∧
      scaled r t = scaled m₁ e₁ * scaled m₂ e₂ := by
  have hvalue : scaled (m₁ * m₂) (e₁ + e₂) = scaled m₁ e₁ * scaled m₂ e₂ := by
    rw [scaled, scaled, scaled, zpow_add₀ (by norm_num)]
    push_cast
    ring
  -- the product of two mantissas of 53 bits has 105 or 106 bits
  have hbelow : 2 ^ 104 ≤ m₁ * m₂ := by
    calc 2 ^ 104 = 2 ^ 52 * 2 ^ 52 := by norm_num
      _ ≤ m₁ * m₂ := Nat.mul_le_mul hn₁.le_mantissa hn₂.le_mantissa
  have habove : m₁ * m₂ < 2 ^ 106 := by
    calc m₁ * m₂ < 2 ^ 53 * 2 ^ 53 := Nat.mul_lt_mul'' hn₁.mantissa_lt hn₂.mantissa_lt
      _ = 2 ^ 106 := by norm_num
  have hne : m₁ * m₂ ≠ 0 := by omega
  obtain ⟨k, hk, hlog⟩ : ∃ k, (k = 52 ∨ k = 53) ∧ (m₁ * m₂).log2 = 52 + k := by
    by_cases hshort : m₁ * m₂ < 2 ^ 105
    · exact ⟨52, .inl rfl, (Nat.log2_eq_iff hne).2 ⟨by omega, by omega⟩⟩
    · exact ⟨53, .inr rfl, (Nat.log2_eq_iff hne).2 ⟨by omega, by omega⟩⟩
  obtain ⟨r, t, hr, hround, hnormal, hexact⟩ :=
    roundWithAccuracy_exact (s := s₁ * s₂) hne hlog (by omega) (by omega) (hvalue ▸ hrep)
  refine ⟨r, t, hr, ?_, hnormal, hexact.trans hvalue⟩
  have hmul : unpacked (x * y) =
      (Float.Model.pack (UnpackedFloat.mul Format.binary64 (unpacked x) (unpacked y))).unpack := rfl
  rw [hmul, hx, hy, UnpackedFloat.mul, hround]
  exact unpack_pack_normal hr hnormal

/-- Signs are multiplied. -/
theorem signed_mul (s₁ s₂ : Sign) (a b : ℚ) :
    signed s₁ a * signed s₂ b = signed (s₁ * s₂) (a * b) := by
  cases s₁ <;> cases s₂
  · exact neg_mul_neg a b
  · exact neg_mul a b
  · exact mul_neg a b
  · rfl

namespace HasValue

variable {x y : Float} {a b : ℚ}

/-- A product is exact where it is representable. -/
theorem mul (hx : HasValue x a) (hy : HasValue y b) (ha : InDomain a) (hb : InDomain b)
    (hrep : Representable |a * b|) : HasValue (x * y) (a * b) := by
  have hmul : unpacked (x * y) =
      (Float.Model.pack (UnpackedFloat.mul Format.binary64 (unpacked x) (unpacked y))).unpack := rfl
  cases hx with
  | @zero s₁ hx =>
      rw [zero_mul]
      cases hy with
      | @zero s₂ hy =>
          rw [hx, hy, UnpackedFloat.mul, unpack_pack_zero] at hmul
          exact .zero hmul
      | @normal s₂ m e hm hy hn =>
          rw [hx, hy, UnpackedFloat.mul, unpack_pack_zero] at hmul
          exact .zero hmul
  | @normal s₁ m₁ e₁ h₁ hx hn₁ =>
      cases hy with
      | @zero s₂ hy =>
          rw [hx, hy, UnpackedFloat.mul, unpack_pack_zero] at hmul
          rw [mul_zero]
          exact .zero hmul
      | @normal s₂ m₂ e₂ h₂ hy hn₂ =>
          have he₁ := hn₁.exponent_bounds_of_inDomain ha
          have he₂ := hn₂.exponent_bounds_of_inDomain hb
          rw [abs_mul, abs_signed s₁ hn₁.scaled_pos.le, abs_signed s₂ hn₂.scaled_pos.le] at hrep
          obtain ⟨r, t, hr, hproduct, hnormal, hexact⟩ :=
            unpacked_mul hx hy hn₁ hn₂ (by omega) (by omega) hrep
          rw [signed_mul, ← hexact]
          exact .normal hproduct hnormal

/-- The opposite of a double has the opposite value. -/
theorem neg (hx : HasValue x a) : HasValue (-x) (-a) := by
  have hneg : unpacked (-x) = (Float.Model.pack (unpacked x).neg).unpack := rfl
  cases hx with
  | @zero s h =>
      rw [h] at hneg
      rw [neg_zero]
      exact .zero (hneg.trans (unpack_pack_zero (-s)))
  | @normal s m e hm h hn =>
      rw [h] at hneg
      have hsigned : -signed s (scaled m e) = signed (-s) (scaled m e) := by
        cases s
        · exact neg_neg _
        · rfl
      rw [hsigned]
      exact .normal (hneg.trans (unpack_pack_normal hm hn)) hn

/-- A double without its sign has the magnitude of its value. -/
theorem abs (hx : HasValue x a) : HasValue x.abs |a| := by
  have habs : unpacked x.abs = (Float.Model.pack (unpacked x).abs).unpack := rfl
  cases hx with
  | @zero s h =>
      rw [h] at habs
      rw [abs_zero]
      exact .zero (habs.trans (unpack_pack_zero .positive))
  | @normal s m e hm h hn =>
      rw [h] at habs
      rw [abs_signed s hn.scaled_pos.le]
      exact .normal (s := .positive) (habs.trans (unpack_pack_normal hm hn)) hn

/-- A double whose value is positive is a positive normal number. -/
theorem exists_normal (hx : HasValue x a) (ha : 0 < a) :
    ∃ m e, ∃ hm : 0 < m, unpacked x = .finite .positive m e hm ∧ IsNormal m e ∧ scaled m e = a := by
  cases hx with
  | zero => exact absurd ha (lt_irrefl 0)
  | @normal s m e hm h hn =>
      cases s with
      | positive => exact ⟨m, e, hm, h, hn, rfl⟩
      | negative =>
          have hneg : 0 < -scaled m e := ha
          have hpos := hn.scaled_pos
          linarith

/-- The floor of a rounded quotient is the floor of the quotient. -/
theorem floor_div {w : ℕ} (hx : HasValue x a) (hy : HasValue y w) (ha : InDomain a) (hw : 1 ≤ w)
    (hwle : w ≤ 2 ^ 52) : ∃ z, HasValue (x / y) z ∧ ⌊z⌋ = ⌊a / w⌋ := by
  have hdiv : unpacked (x / y) =
      (Float.Model.pack (UnpackedFloat.div Format.binary64 (unpacked x) (unpacked y))).unpack := rfl
  have hone : (1 : ℚ) ≤ w := by exact_mod_cast hw
  have hmax : (w : ℚ) ≤ 2 ^ 53 := by exact_mod_cast hwle.trans (by norm_num)
  obtain ⟨m₂, e₂, h₂, hy, hn₂, hscaled⟩ := hy.exists_normal (by linarith)
  have he₂ := hn₂.exponent_bounds (hscaled ▸ hone) (hscaled ▸ hmax)
  cases hx with
  | @zero s₁ hx =>
      rw [hx, hy, UnpackedFloat.div, unpack_pack_zero] at hdiv
      refine ⟨0, .zero hdiv, ?_⟩
      rw [zero_div]
  | @normal s₁ m₁ e₁ h₁ hx hn₁ =>
      have he₁ := hn₁.exponent_bounds_of_inDomain ha
      obtain ⟨r, t, hr, hquotient, hnormal, hnear⟩ :=
        unpacked_div hx hy hn₁ hn₂ (by omega) (by omega)
      rw [hscaled] at hnear
      refine ⟨_, .normal hquotient hnormal, ?_⟩
      have hbound := (hn₁.scaled_bounds ha).2
      -- dividing by a positive number keeps the sign
      cases s₁ with
      | positive =>
          show ⌊scaled r t⌋ = ⌊scaled m₁ e₁ / w⌋
          exact hnear.floor_quotient hw hn₁.representable hnormal.representable
            hn₁.scaled_pos.le hbound hwle
      | negative =>
          show ⌊-scaled r t⌋ = ⌊-scaled m₁ e₁ / w⌋
          rw [neg_div, Int.floor_neg, Int.floor_neg, neg_inj]
          exact hnear.ceil_quotient hw hn₁.representable hnormal.representable
            hn₁.scaled_pos.le hbound hwle

end HasValue

/-- A positive whole number below `2 ^ 53` is exact as a double. -/
theorem unpacked_toUInt64 {n : ℕ} (hpos : 0 < n) (hn : n < 2 ^ 53) :
    ∃ r t, ∃ hr : 0 < r, unpacked n.toUInt64.toFloat = .finite .positive r t hr ∧
      IsNormal r t ∧ scaled r t = n := by
  obtain ⟨k, hk⟩ : ∃ k, n.log2 + k = 52 := by
    have hlog : n.log2 < 53 := (Nat.log2_lt (by omega)).2 hn
    exact ⟨52 - n.log2, by omega⟩
  have hcast : n.toUInt64.toNat = n := by
    show n % 2 ^ 64 = n
    omega
  -- the mantissa is shifted to the left until it has 53 bits, and nothing is cut off
  have hround : unpacked n.toUInt64.toFloat =
      (Float.Model.pack
        (roundWithAccuracy Format.binary64 .positive (n * 2 ^ k) (-k) .exact)).unpack := by
    have htarget : Format.binary64.targetExponent (totalExponent n 0) = -k := by
      rw [Format.targetExponent, totalExponent]
      show max ((n.log2 : ℤ) + 1 + 0 - ((1 + 52 : ℕ) : ℤ)) (-1074) = -k
      push_cast
      omega
    have hfloat : unpacked n.toUInt64.toFloat = (Float.Model.pack
        (UnpackedFloat.normalize Format.binary64 (n.toUInt64.toNat : ℤ) 0 .positive)).unpack := rfl
    have hcompare : compare (n : ℤ) 0 = .gt := Int.compare_eq_gt.2 (by omega)
    rw [hfloat, hcast, UnpackedFloat.normalize, hcompare]
    show (Float.Model.pack (UnpackedFloat.round Format.binary64 .positive n 0)).unpack = _
    simp only [UnpackedFloat.round, htarget, decreaseExponent, zero_sub, neg_neg, Int.toNat_natCast,
      Nat.shiftLeft_eq]
  have hvalue : scaled (n * 2 ^ k) (-k) = n := by
    rw [scaled, zpow_neg, zpow_natCast]
    push_cast
    field_simp
  have hne : n * 2 ^ k ≠ 0 := by positivity
  have hshift : (n * 2 ^ k).log2 = 52 + 0 := by
    obtain ⟨hlow, hhigh⟩ := (Nat.log2_eq_iff hpos.ne').1 rfl
    refine (Nat.log2_eq_iff hne).2 ⟨?_, ?_⟩
    · calc 2 ^ (52 + 0) = 2 ^ n.log2 * 2 ^ k := by rw [← pow_add, hk]
        _ ≤ n * 2 ^ k := by gcongr
    · calc n * 2 ^ k < 2 ^ (n.log2 + 1) * 2 ^ k := by gcongr
        _ = 2 ^ (52 + 0 + 1) := by rw [← pow_add, add_right_comm, hk]
  obtain ⟨r, t, hr, hexact, hnormal, hscaled⟩ :=
    roundWithAccuracy_exact (s := .positive) hne hshift (by push_cast; omega) (by push_cast; omega)
      (hvalue ▸ representable_nat hn.le)
  refine ⟨r, t, hr, ?_, hnormal, hscaled.trans hvalue⟩
  rw [hround, hexact]
  exact unpack_pack_normal hr hnormal

end SeriesQuery.Binary64
