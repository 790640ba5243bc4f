import SeriesQuery.Number.Nearest
import SeriesQuery.Proofs.Number.Order

/-!
# Integers as doubles

A 64-bit integer becomes the double nearest to it (`hasValue_ofInt_nearest`), which is another
number where more than 53 bits are needed. Rounding keeps integers in order (`nearest_mono`), and
leaves those below `2 ^ 53` in magnitude apart from all others (`nearest_ne`). On the way back the
whole part of a finite double is clamped to the signed range (`toInt64_floor`). `Number.rounded?` is
what a number of the data format is as a double.
-/

namespace SeriesQuery

namespace Binary64

open Float.Model Float.Model.UnpackedFloat

namespace Residue

variable {em : ExtendedMantissa} {num den : ℕ}

/-- What was cut off is the fraction that a division leaves. -/
theorem mantissa_eq_div (hden : 0 < den) (h : Residue em ((num : ℚ) / den)) :
    em.mantissa = num / den := by
  have hdenq : (0 : ℚ) < den := by exact_mod_cast hden
  have hlt : (num : ℚ) / den < em.mantissa + 1 := by
    obtain ⟨m, round, sticky⟩ := em
    cases round <;> cases sticky <;> simp only [Residue] at h ⊢ <;> linarith
  have hle := h.mantissa_le
  rw [le_div_iff₀ hdenq] at hle
  rw [div_lt_iff₀ hdenq] at hlt
  refine (Nat.div_eq_of_lt_le ?_ ?_).symm
  · exact_mod_cast hle
  · exact_mod_cast hlt

/-- The mantissa of a fraction is rounded to the nearest integer, or to the even one of two. -/
theorem roundedMantissa_eq (hden : 0 < den) (h : Residue em ((num : ℚ) / den)) :
    em.roundedMantissa = Nearest.divideEven num den := by
  have hdenq : (0 : ℚ) < den := by exact_mod_cast hden
  have hmantissa := h.mantissa_eq_div hden
  -- the two bits compare twice the rest of the division with the divisor
  have hrest : (num : ℚ) / den = (num / den : ℕ) + ((num % den : ℕ) : ℚ) / den := by
    have hsplit : (num : ℚ) = den * (num / den : ℕ) + (num % den : ℕ) := by
      exact_mod_cast (Nat.div_add_mod num den).symm
    rw [eq_comm, ← eq_sub_iff_add_eq', div_eq_iff hdenq.ne', sub_mul, div_mul_cancel₀ _ hdenq.ne']
    linarith
  have hbelow : ((num % den : ℕ) : ℚ) / den < 1 / 2 ↔ 2 * (num % den) < den := by
    rw [div_lt_div_iff₀ hdenq (by norm_num), one_mul, mul_comm]
    exact_mod_cast Iff.rfl
  have habove : 1 / 2 < ((num % den : ℕ) : ℚ) / den ↔ den < 2 * (num % den) := by
    rw [div_lt_div_iff₀ (by norm_num) hdenq, one_mul, mul_comm]
    exact_mod_cast Iff.rfl
  rw [hrest, ← hmantissa] at h
  rw [Nearest.divideEven, ← hmantissa]
  simp only [← hbelow, ← habove]
  obtain ⟨m, round, sticky⟩ := em
  cases round <;> cases sticky <;>
    simp only [Residue, ExtendedMantissa.roundedMantissa, ExtendedMantissa.accuracy,
      Accuracy.roundToNearestEven] at h ⊢
  · rw [if_pos (by linarith)]
  · rw [if_pos (by linarith [h.2])]
  · rw [if_neg (by linarith), if_neg (by linarith)]
    split <;> omega
  · rw [if_neg (by linarith [h.1]), if_pos (by linarith [h.1])]

end Residue

/-! ### Nearest doubles -/

/-- The natural number nearest to `n` that has zeros after its first 53 bits, or of two such numbers
the one with the even mantissa. -/
def nearestNat (n : ℕ) : ℕ := Nearest.divideEven n (2 ^ (n.log2 - 52)) * 2 ^ (n.log2 - 52)

/-- The integer nearest to `z` that a double can have as its value. -/
def nearest (z : ℤ) : ℤ := if z < 0 then -nearestNat z.natAbs else nearestNat z.natAbs

/-- A natural number of 53 bits needs no rounding. -/
theorem nearestNat_eq_self {n : ℕ} (hn : n < 2 ^ 53) : nearestNat n = n := by
  have hlog : n.log2 - 52 = 0 := by
    rcases Nat.eq_zero_or_pos n with rfl | hpos
    · rfl
    · have hlt : n.log2 < 53 := (Nat.log2_lt (by omega)).2 hn
      omega
  rw [nearestNat, hlog, Nearest.divideEven]
  simp [Nat.mod_one]

/-- A natural number of more than 53 bits is not rounded below `2 ^ 53`. -/
theorem le_nearestNat {n : ℕ} (hn : 2 ^ 53 ≤ n) : 2 ^ 53 ≤ nearestNat n := by
  obtain ⟨k, hk⟩ : ∃ k, n.log2 = 52 + (k + 1) := by
    have hlog : 53 ≤ n.log2 := (Nat.le_log2 (by omega)).2 hn
    exact ⟨n.log2 - 53, by omega⟩
  have hbits := (div_pow_bounds (by omega) hk).1
  have hquotient : n / 2 ^ (k + 1) ≤ Nearest.divideEven n (2 ^ (k + 1)) := by
    simp only [Nearest.divideEven]
    split_ifs <;> omega
  rw [nearestNat, hk, Nat.add_sub_cancel_left]
  calc 2 ^ 53 = 2 ^ 52 * 2 ^ 1 := by norm_num
    _ ≤ Nearest.divideEven n (2 ^ (k + 1)) * 2 ^ (k + 1) := by
        gcongr
        · exact hbits.trans hquotient
        · norm_num
        · omega

/-- An integer below `2 ^ 53` in magnitude needs no rounding. -/
theorem nearest_eq_self {z : ℤ} (hz : z.natAbs < 2 ^ 53) : nearest z = z := by
  rw [nearest, nearestNat_eq_self hz]
  split <;> omega

/-- Rounding moves no integer over a bound below `2 ^ 53` in magnitude. -/
theorem le_nearest_iff {b z : ℤ} (hb : b.natAbs < 2 ^ 53) : b ≤ nearest z ↔ b ≤ z := by
  by_cases hz : z.natAbs < 2 ^ 53
  · rw [nearest_eq_self hz]
  · have hlarge := le_nearestNat (not_lt.1 hz)
    rw [nearest]
    split <;> omega

/-- Zeros after a natural number add to its bits. -/
theorem log2_mul_pow {n : ℕ} (hn : n ≠ 0) (k : ℕ) : (n * 2 ^ k).log2 = n.log2 + k := by
  obtain ⟨hlow, hhigh⟩ := (Nat.log2_eq_iff hn).1 rfl
  refine (Nat.log2_eq_iff (by positivity)).2 ⟨?_, ?_⟩
  · calc 2 ^ (n.log2 + k) = 2 ^ n.log2 * 2 ^ k := pow_add _ _ _
      _ ≤ n * 2 ^ k := by gcongr
  · calc n * 2 ^ k < 2 ^ (n.log2 + 1) * 2 ^ k := by gcongr
      _ = 2 ^ (n.log2 + k + 1) := by ring

/-- What the first 53 bits of a natural number with 53 zeros after it leave of it. -/
theorem residue_first {n : ℕ} (hlog : 53 ≤ n.log2) :
    Residue (ExtendedMantissa.ofMantissaAndAccuracy (n * 2 ^ 53) .exact >>> (n.log2 + 1))
      ((n : ℚ) / (2 ^ (n.log2 - 52) : ℕ)) := by
  have hexact : Residue (ExtendedMantissa.ofMantissaAndAccuracy (n * 2 ^ 53) .exact)
      ((n : ℚ) / (2 : ℚ) ^ (-53 : ℤ)) := by
    show (n : ℚ) / (2 : ℚ) ^ (-53 : ℤ) = (n * 2 ^ 53 : ℕ)
    rw [zpow_neg, div_inv_eq_mul]
    norm_num
  have hexponent : (-53 : ℤ) + (n.log2 + 1 : ℕ) = (n.log2 - 52 : ℕ) := by omega
  have hcut := residue_shiftRight (n.log2 + 1) hexact
  rw [hexponent, zpow_natCast] at hcut
  exact_mod_cast hcut

/-- From `2 ^ 53` on a natural number becomes the double nearest to it. -/
theorem hasValue_ofNat_nearest {n : ℕ} (hlow : 2 ^ 53 ≤ n) (hhigh : n < 2 ^ 64) :
    HasValue (Float.ofNat n) (nearestNat n) := by
  have hne : n ≠ 0 := by omega
  have hlog : 53 ≤ n.log2 := (Nat.le_log2 hne).2 hlow
  have hlog' : n.log2 < 64 := (Nat.log2_lt hne).2 hhigh
  have hbits : (n * 2 ^ 53).log2 = 52 + (n.log2 + 1) := by
    rw [log2_mul_pow hne]
    omega
  have hexponent : (-53 : ℤ) + (n.log2 + 1 : ℕ) = (n.log2 - 52 : ℕ) := by omega
  obtain ⟨r, t, hr, hround, hnormal, hvalue⟩ :=
    roundWithAccuracy_value (s := .positive) (e := -53) (a := .exact)
      (by positivity : n * 2 ^ 53 ≠ 0) hbits (by omega) (by omega)
  have hunpacked := unpacked_ofNat hlow
  rw [hround, unpack_pack_normal hr hnormal] at hunpacked
  have hnearest : signed .positive (scaled r t) = nearestNat n := by
    show scaled r t = nearestNat n
    rw [hvalue, (residue_first hlog).roundedMantissa_eq (by positivity), hexponent, scaled,
      zpow_natCast, nearestNat]
    push_cast
    rfl
  rw [← hnearest]
  exact .normal hunpacked hnormal

/-- A 64-bit integer becomes the double nearest to it. -/
theorem hasValue_ofInt_nearest {z : ℤ} (hz : z.natAbs < 2 ^ 64) :
    HasValue (Float.ofInt z) (nearest z) := by
  by_cases hsmall : z.natAbs < 2 ^ 53
  · rw [nearest_eq_self hsmall]
    exact hasValue_ofInt hsmall
  · have hlarge := hasValue_ofNat_nearest (not_lt.1 hsmall) hz
    cases z with
    | ofNat n => exact hlarge
    | negSucc n =>
        rw [nearest, if_pos (Int.negSucc_lt_zero n)]
        push_cast
        exact hlarge.neg

/-! ### The order of nearest doubles -/

/-- Rounding moves a quotient by a half at most. -/
theorem divideEven_bounds (num : ℕ) {den : ℕ} (hden : 0 < den) :
    2 * (den * Nearest.divideEven num den) ≤ 2 * num + den ∧
      2 * num ≤ 2 * (den * Nearest.divideEven num den) + den := by
  have hsplit := Nat.div_add_mod num den
  have hrest := Nat.mod_lt num hden
  simp only [Nearest.divideEven]
  split_ifs
  · omega
  · rw [mul_add, mul_one]
    omega
  · omega
  · rw [mul_add, mul_one]
    omega

/-- Rounding keeps quotients by one divisor in order. -/
theorem divideEven_mono {m n den : ℕ} (hden : 0 < den) (h : m ≤ n) :
    Nearest.divideEven m den ≤ Nearest.divideEven n den := by
  by_contra hlt
  have hnext : Nearest.divideEven n den + 1 ≤ Nearest.divideEven m den := by omega
  have hproduct : den * Nearest.divideEven n den + den ≤ den * Nearest.divideEven m den := by
    calc den * Nearest.divideEven n den + den = den * (Nearest.divideEven n den + 1) := by ring
      _ ≤ den * Nearest.divideEven m den := Nat.mul_le_mul_left den hnext
  -- both are moved by a half, towards each other, so that they are one quotient
  have hupper := (divideEven_bounds m hden).1
  have hlower := (divideEven_bounds n hden).2
  obtain rfl : m = n := by omega
  omega

/-- A natural number is rounded to one with as many bits, or to the power of two above these. -/
theorem nearestNat_bounds {n : ℕ} (hn : n ≠ 0) :
    2 ^ n.log2 ≤ nearestNat n ∧ nearestNat n ≤ 2 ^ (n.log2 + 1) := by
  obtain ⟨hlow, hhigh⟩ := (Nat.log2_eq_iff hn).1 rfl
  by_cases hsmall : n < 2 ^ 53
  · rw [nearestNat_eq_self hsmall]
    exact ⟨hlow, hhigh.le⟩
  · obtain ⟨k, hk⟩ : ∃ k, n.log2 = 52 + k := by
      have hlog : 53 ≤ n.log2 := (Nat.le_log2 hn).2 (not_lt.1 hsmall)
      exact ⟨n.log2 - 52, by omega⟩
    obtain ⟨hbits, hbits'⟩ := div_pow_bounds hn hk
    have hquotient : n / 2 ^ k ≤ Nearest.divideEven n (2 ^ k) ∧
        Nearest.divideEven n (2 ^ k) ≤ n / 2 ^ k + 1 := by
      simp only [Nearest.divideEven]
      split_ifs <;> omega
    rw [nearestNat, hk, Nat.add_sub_cancel_left]
    constructor
    · calc 2 ^ (52 + k) = 2 ^ 52 * 2 ^ k := pow_add _ _ _
        _ ≤ Nearest.divideEven n (2 ^ k) * 2 ^ k := by
            gcongr
            omega
    · calc Nearest.divideEven n (2 ^ k) * 2 ^ k ≤ 2 ^ 53 * 2 ^ k := by
            gcongr
            omega
        _ = 2 ^ (52 + k + 1) := by ring

/-- Rounding keeps natural numbers in order. -/
theorem nearestNat_mono {m n : ℕ} (h : m ≤ n) : nearestNat m ≤ nearestNat n := by
  rcases Nat.eq_zero_or_pos m with rfl | hm
  · exact Nat.zero_le _
  · have hlog : m.log2 ≤ n.log2 := (Nat.le_log2 (by omega)).2 ((Nat.log2_self_le hm.ne').trans h)
    rcases hlog.eq_or_lt with heq | hlt
    · rw [nearestNat, nearestNat, heq]
      gcongr
      exact divideEven_mono (by positivity) h
    · calc nearestNat m ≤ 2 ^ (m.log2 + 1) := (nearestNat_bounds hm.ne').2
        _ ≤ 2 ^ n.log2 := by
            gcongr
            · norm_num
            · omega
        _ ≤ nearestNat n := (nearestNat_bounds (by omega)).1

/-- Rounding keeps integers in order. -/
theorem nearest_mono {y z : ℤ} (h : y ≤ z) : nearest y ≤ nearest z := by
  rw [nearest, nearest]
  split_ifs with hy hz
  · have := nearestNat_mono (m := z.natAbs) (n := y.natAbs) (by omega)
    omega
  · omega
  · omega
  · have := nearestNat_mono (m := y.natAbs) (n := z.natAbs) (by omega)
    omega

/-- Rounding takes no other integer to one below `2 ^ 53` in magnitude. -/
theorem nearest_ne {y z : ℤ} (hy : y.natAbs < 2 ^ 53) (h : y ≠ z) : nearest y ≠ nearest z := by
  rw [nearest_eq_self hy]
  by_cases hz : z.natAbs < 2 ^ 53
  · rw [nearest_eq_self hz]
    exact h
  · have hlarge := le_nearestNat (not_lt.1 hz)
    rw [nearest]
    split_ifs <;> omega

/-- A 64-bit integer is compared as the double nearest to it. -/
theorem extended_ofInt {z : ℤ} (hz : z.natAbs < 2 ^ 64) :
    extended (Float.ofInt z) = ((nearest z : ℚ) : WithTop ℚ) :=
  extended_of_value? (hasValue_ofInt_nearest hz).value?_eq

/-- A double whose value has a magnitude from `2 ^ 53` on stays a double in the data format. -/
theorem HasValue.ofFloat_eq_float {x : Float} {q : ℚ} (h : HasValue x q) (hq : 2 ^ 53 ≤ |q|) :
    Json.ofFloat x = .num (.float x) := by
  have hlimit : HasValue Number.wholeLimit (2 ^ 53) := by
    have hvalue : signed .positive (scaled (2 ^ 52) 1) = 2 ^ 53 := by
      show ((2 ^ 52 : ℕ) : ℚ) * 2 ^ (1 : ℤ) = 2 ^ 53
      norm_num
    rw [← hvalue]
    exact .normal unpacked_wholeLimit ⟨by decide, by decide, by decide, by decide⟩
  have hlarge : ¬x.abs < Number.wholeLimit := by
    rw [lt_iff (not_isNaN_of_isFinite h.abs.isFinite) (not_isNaN_of_isFinite hlimit.isFinite),
      extended_of_value? h.abs.value?_eq, extended_of_value? hlimit.value?_eq, not_lt]
    exact_mod_cast hq
  rw [Json.ofFloat, Number.ofFloat?]
  simp [hlarge, h.isFinite]

/-! ### Whole parts -/

/-- The integer of a finite double has at most 53 bits. -/
theorem natAbs_lt_of_parts? {x : Float} {m e : ℤ} (h : parts? x = some (m, e)) :
    m.natAbs < 2 ^ 53 := by
  have hfraction : fraction x.toBits.toNat < 2 ^ 52 := Nat.mod_lt _ (by decide)
  have hpow : pow2 52 = 2 ^ 52 := rfl
  simp only [parts?] at h
  split at h
  · cases h
  · simp only [Option.some.injEq, Prod.mk.injEq] at h
    obtain ⟨hm, -⟩ := h
    split at hm <;> split at hm <;> omega

/-- The whole part of a finite double is clamped to 64 bits. -/
theorem toInt64_floor {x : Float} {v : ℚ} (h : value? x = some v) :
    toInt64 (Binary64.floor x) = clamp ⌊v⌋ := by
  rw [value?, Option.map_eq_some_iff] at h
  obtain ⟨⟨m, e⟩, hparts, rfl⟩ := h
  by_cases he : 0 ≤ e
  · have hfloor : Binary64.floor x = x := by
      rw [Binary64.floor, roundWith, hparts]
      exact if_pos he
    rw [hfloor, toInt64, hparts]
    show clamp (integral Int.tdiv m e) = clamp ⌊(m : ℚ) * (2 : ℚ) ^ e⌋
    rw [integral, if_pos he, ← mul_pow_toNat he, Int.floor_intCast]
  · have hfloor : Binary64.floor x = Float.ofInt (m / pow2 (-e).toNat) := by
      rw [Binary64.floor, roundWith, hparts]
      exact if_neg he
    have hsmall : (m / (pow2 (-e).toNat : ℤ)).natAbs < 2 ^ 53 :=
      (Int.natAbs_ediv_le_natAbs _ _).trans_lt (natAbs_lt_of_parts? hparts)
    show _ = clamp ⌊(m : ℚ) * (2 : ℚ) ^ e⌋
    rw [hfloor, floor_mul_zpow (by omega), ← Int64.toInt_inj, toInt_clamp hsmall]
    exact (hasValue_ofInt hsmall).toInt_toInt64 hsmall

end Binary64

namespace Number

/-- The exact value of the double nearest to a number; nothing for a double that is not finite. -/
def rounded? : Number → Option ℚ
  | int z => some (Binary64.nearest z)
  | float x => Binary64.value? x

/-- A number of the data format becomes the double nearest to it. -/
theorem value?_toFloat {n : Number} (h : n.Valid) : Binary64.value? n.toFloat = n.rounded? := by
  cases n with
  | int z =>
      obtain ⟨hlow, hhigh⟩ := h
      have hmin : Int64.minValue.toInt = -2 ^ 63 := rfl
      have hsize : (UInt64.size : ℤ) = 2 ^ 64 := rfl
      exact (Binary64.hasValue_ofInt_nearest (by omega)).value?_eq
  | float x => rfl

/-- A number of the data format has a nearest double. -/
theorem exists_rounded? {n : Number} (h : n.Valid) : ∃ v, n.rounded? = some v := by
  cases n with
  | int z => exact ⟨_, rfl⟩
  | float x =>
      obtain ⟨⟨m, e⟩, hparts⟩ := Option.isSome_iff_exists.1 h
      refine ⟨(m : ℚ) * (2 : ℚ) ^ e, ?_⟩
      rw [rounded?, Binary64.value?, hparts]
      rfl

/-- A number of the data format is a number as a double. -/
theorem Valid.not_isNaN {n : Number} (h : n.Valid) : n.toFloat.isNaN = false := by
  obtain ⟨v, hv⟩ := exists_rounded? h
  exact Binary64.not_isNaN_of_value? ((value?_toFloat h).trans hv)

/-- Numbers of the data format are equal as doubles if they have one nearest double. -/
theorem toFloat_beq_iff {m n : Number} (hm : m.Valid) (hn : n.Valid) :
    (m.toFloat == n.toFloat) = true ↔ m.rounded? = n.rounded? := by
  obtain ⟨v, hv⟩ := exists_rounded? hm
  obtain ⟨w, hw⟩ := exists_rounded? hn
  rw [Binary64.beq_iff hm.not_isNaN hn.not_isNaN,
    Binary64.extended_of_value? ((value?_toFloat hm).trans hv),
    Binary64.extended_of_value? ((value?_toFloat hn).trans hw), hv, hw]
  norm_cast
  exact Option.some_inj.symm

end Number

end SeriesQuery
