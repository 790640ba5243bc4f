import Mathlib
import SeriesQuery.Number.Binary64

/-!
# Doubles by their parts

The operations of doubles are defined on unpacked doubles, and `Binary64.parts?` reads the word. Both
see the same number (`parts?_eq`), and a normal number is unpacked as it was packed
(`unpack_pack_normal`).
-/

namespace SeriesQuery.Binary64

open Float.Model Float.Model.UnpackedFloat

/-- The double as it is unpacked: not a number, an infinity, a zero, or a sign, a mantissa and an
exponent. -/
def unpacked (x : Float) : UnpackedFloat := x.toModel.unpack

/-- The mantissa field of a word. -/
theorem toNat_unpackMantissa (b : BitVec Format.binary64.numBits) :
    (unpackMantissa b).toNat = fraction b.toNat := by
  rw [unpackMantissa, BitVec.toNat_cast, BitVec.extractLsb_toNat]
  rfl

/-- The exponent field of a word. -/
theorem toNat_unpackExponent (b : BitVec Format.binary64.numBits) :
    (unpackExponent b).toNat = exponentField b.toNat := by
  rw [unpackExponent, BitVec.toNat_cast, BitVec.extractLsb_toNat, Nat.shiftRight_eq_div_pow]
  rfl

/-- The sign field of a word. -/
theorem ofBitVec_unpackSign (b : BitVec Format.binary64.numBits) :
    Sign.ofBitVec (unpackSign b) = if b.toNat < pow2 63 then .positive else .negative := by
  have h : (unpackSign b).toNat = b.toNat / 2 ^ 63 % 2 := by
    rw [unpackSign, BitVec.toNat_cast, BitVec.extractLsb_toNat, Nat.shiftRight_eq_div_pow]
    rfl
  have hb : b.toNat < 2 ^ 64 := b.isLt
  have hzero : unpackSign b = 0#1 ↔ b.toNat < pow2 63 := by
    rw [← BitVec.toNat_inj, h]
    show b.toNat / 2 ^ 63 % 2 = 0 ↔ b.toNat < 2 ^ 63
    omega
  rw [Sign.ofBitVec]
  simp only [hzero]

/-- The mantissa of a normal number has the implicit bit. -/
theorem toNat_implicit (m : BitVec 52) : (1#1 ++ m).toNat = pow2 52 + m.toNat := by
  rw [BitVec.toNat_append, ← Nat.shiftLeft_add_eq_or_of_lt m.isLt]
  rfl

/-- The integer and the exponent of what a double unpacks to. -/
def unpackedParts? : UnpackedFloat → Option (Int × Int)
  | .finite s m e _ => some (s.apply m, e)
  | .zero _ => some (0, -1074)
  | _ => none

/-- The integer and the exponent of a double are those of its unpacked form. -/
theorem parts?_eq (x : Float) : parts? x = unpackedParts? (unpacked x) := by
  obtain ⟨b, hb⟩ : ∃ b : BitVec Format.binary64.numBits, x.toModel.toBits.toBitVec = b := ⟨_, rfl⟩
  have hword : x.toBits.toNat = b.toNat := by rw [← hb]; rfl
  have hinf : unpackExponent b = -1#_ ↔ exponentField b.toNat = 2047 := by
    rw [← BitVec.toNat_inj, toNat_unpackExponent]
    rfl
  have hsub : unpackExponent b = 0#_ ↔ exponentField b.toNat = 0 := by
    rw [← BitVec.toNat_inj, toNat_unpackExponent]
    rfl
  have hzero : unpackMantissa b = 0#_ ↔ fraction b.toNat = 0 := by
    rw [← BitVec.toNat_inj, toNat_unpackMantissa]
    rfl
  have hsign : ∀ m : Nat, (Sign.ofBitVec (unpackSign b)).apply m =
      if b.toNat < pow2 63 then (m : Int) else -(m : Int) := by
    intro m
    rw [ofBitVec_unpackSign]
    split <;> rfl
  have hunpacked : unpacked x = UnpackedFloat.unpack Format.binary64 b := by rw [← hb]; rfl
  have himplicit : (1#1 ++ unpackMantissa b).toNat = pow2 52 + fraction b.toNat := by
    rw [← toNat_unpackMantissa]
    exact toNat_implicit (unpackMantissa b)
  rw [hunpacked, UnpackedFloat.unpack, parts?, hword]
  by_cases hfinite : exponentField b.toNat = 2047
  · rw [if_pos (hinf.2 hfinite), if_pos hfinite]
    split <;> rfl
  · rw [if_neg (mt hinf.1 hfinite), if_neg hfinite]
    by_cases hfield : exponentField b.toNat = 0
    · rw [if_pos (hsub.2 hfield), if_pos hfield, if_pos hfield]
      by_cases hfraction : fraction b.toNat = 0
      · rw [dif_pos (hzero.2 hfraction), hfraction]
        simp [unpackedParts?]
      · rw [dif_neg (mt hzero.1 hfraction), unpackedParts?, hsign, toNat_unpackMantissa,
          toNat_unpackExponent, hfield]
        rfl
    · rw [if_neg (mt hsub.1 hfield), if_neg hfield, if_neg hfield, unpackedParts?, hsign,
        himplicit, toNat_unpackExponent]
      rfl

/-- A mantissa with its leading bit and an exponent of a normal double. -/
structure IsNormal (m : Nat) (e : Int) : Prop where
  /-- The leading bit is there. -/
  le_mantissa : 2 ^ 52 ≤ m
  /-- There are no more than 53 bits. -/
  mantissa_lt : m < 2 ^ 53
  /-- The exponent is not below that of the subnormal numbers. -/
  le_exponent : -1074 ≤ e
  /-- The exponent is not above the greatest one. -/
  exponent_le : e ≤ 971

/-- The sign that components were packed with. -/
theorem unpackSign_packComponents {spec : Format} (s : Sign) (e : BitVec spec.exponentBits)
    (m : BitVec spec.mantissaBitsWithoutImplicit) :
    unpackSign (packComponents spec s e m) = s.toBitVec := by
  apply BitVec.eq_of_getLsbD_eq
  intro i hi
  obtain rfl : i = 0 := by omega
  simp [unpackSign, packComponents, BitVec.getLsbD_append, BitVec.getElem_append]

/-- A sign is found again in its bit. -/
theorem ofBitVec_toBitVec (s : Sign) : Sign.ofBitVec s.toBitVec = s := by
  cases s <;> rfl

/-- A packed zero is unpacked as a zero of its sign. -/
theorem unpack_pack_zero (s : Sign) : (Float.Model.pack (.zero s)).unpack = .zero s := by
  cases s <;> rfl

/-- A packed normal number is unpacked as it was. -/
theorem unpack_pack_normal {s : Sign} {m : Nat} {e : Int} (hm : 0 < m) (h : IsNormal m e) :
    (Float.Model.pack (.finite s m e hm)).unpack = .finite s m e hm := by
  obtain ⟨hlow, hhigh, hmin, hmax⟩ := h
  have hlog : m.log2 = 52 := (Nat.log2_eq_iff (by omega)).2 ⟨hlow, hhigh⟩
  obtain ⟨k, hk⟩ : ∃ k : Nat, e + 1023 + 52 = k := ⟨(e + 1023 + 52).toNat, by omega⟩
  have hpack : UnpackedFloat.pack Format.binary64 (.finite s m e hm) =
      packComponents Format.binary64 s (BitVec.ofNat _ k) (BitVec.ofNat _ m) := by
    have hbiased : (e + (Format.binary64.exponentBias : Int) +
        (Format.binary64.mantissaBitsWithoutImplicit : Int)).toNat = k := by
      show (e + 1023 + 52).toNat = k
      omega
    rw [UnpackedFloat.pack]
    simp only [hbiased, hlog]
    rw [if_neg (by omega), if_pos (by decide)]
  have hexponent : (BitVec.ofNat 11 k).toNat = k := by
    rw [BitVec.toNat_ofNat]
    omega
  have hmantissa : (1#1 ++ BitVec.ofNat 52 m).toNat = m := by
    rw [toNat_implicit, BitVec.toNat_ofNat]
    show 2 ^ 52 + m % 2 ^ 52 = m
    omega
  have hinf : BitVec.ofNat 11 k ≠ -1#_ := by
    rw [ne_eq, ← BitVec.toNat_inj, hexponent]
    show ¬ k = 2047
    omega
  have hsub : BitVec.ofNat 11 k ≠ 0#_ := by
    rw [ne_eq, ← BitVec.toNat_inj, hexponent]
    show ¬ k = 0
    omega
  show UnpackedFloat.unpack Format.binary64 (UnpackedFloat.pack Format.binary64 _) = _
  rw [hpack, UnpackedFloat.unpack]
  simp only [unpackMantissa_packComponents, unpackExponent_packComponents,
    unpackSign_packComponents, ofBitVec_toBitVec, hinf, hsub, if_false, hmantissa, hexponent]
  congr 1
  show (k : Int) - (1023 + 52) = e
  omega

/-- The mantissa and the exponent of a finite double. -/
theorem bounds_of_unpacked {x : Float} {s : Sign} {m : Nat} {e : Int} {hm : 0 < m}
    (h : unpacked x = .finite s m e hm) :
    m < 2 ^ 53 ∧ -1074 ≤ e ∧ e ≤ 971 ∧ (2 ^ 52 ≤ m ∨ e = -1074) := by
  have hparts := parts?_eq x
  have hfraction : fraction x.toBits.toNat < 2 ^ 52 := Nat.mod_lt _ (by decide)
  have hfield : exponentField x.toBits.toNat < 2 ^ 11 := Nat.mod_lt _ (by decide)
  rw [h, unpackedParts?, parts?] at hparts
  split at hparts
  · cases hparts
  · next hfinite =>
      rw [Option.some.injEq, Prod.mk.injEq] at hparts
      obtain ⟨hmantissa, hexponent⟩ := hparts
      have hsign : (s.apply m).natAbs = m := by cases s <;> simp [Sign.apply]
      have habs := congrArg Int.natAbs hmantissa
      rw [hsign, apply_ite Int.natAbs, Int.natAbs_neg, ite_self, Int.natAbs_natCast] at habs
      rw [show pow2 52 = 2 ^ 52 from rfl] at habs
      by_cases hzero : exponentField x.toBits.toNat = 0
      · rw [if_pos hzero] at habs hexponent
        omega
      · rw [if_neg hzero] at habs hexponent
        omega

end SeriesQuery.Binary64
