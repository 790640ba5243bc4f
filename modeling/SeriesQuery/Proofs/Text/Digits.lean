import Mathlib.Data.List.Basic
import Mathlib.Data.Nat.Digits.Defs
import SeriesQuery.Text.Letter

/-!
# Digits and the numbers that they write

A number is read from its digits one after the other, in any base (`foldl_digits`). What a run of
decimal digits is read as depends only on whether they are ASCII digits and on their number
(`parseInt64?_digits`).
-/

namespace SeriesQuery.Text

/-- Reading digits one after the other gives the number that they write. -/
theorem foldl_digits {α : Type} (base : ℕ) (value : Char → ℕ) (text : α → Char) (number : α → ℕ)
    {ds : List α} (h : ∀ d ∈ ds, value (text d) = number d) :
    (ds.map text).foldl (fun n c => base * n + value c) 0 =
      Nat.ofDigits base (ds.map number).reverse := by
  rw [Nat.ofDigits_eq_foldr, List.foldr_reverse, List.foldl_map, List.foldl_map]
  apply List.foldl_ext
  intro n d hd
  rw [h d hd, Nat.cast_id, Nat.add_comm]

/-- Decimal digits are recognised and have their values. -/
theorem digitChar_decimal : ∀ d < 10,
    isAsciiDigit (Nat.digitChar d) = true ∧ digitValue (Nat.digitChar d) = d := by
  decide

/-- The digits of a number are ASCII digits. -/
theorem all_toDigits (n : Nat) : (Nat.toDigits 10 n).all isAsciiDigit = true := by
  rw [List.all_eq_true]
  intro c hc
  have h := Nat.isDigit_of_mem_toDigits (by decide) (by decide) hc
  simpa [isAsciiDigit, Char.isDigit, Char.le_def] using h

/-- The digits of a number write it. -/
theorem natOfDigits_toDigits (n : Nat) : natOfDigits (Nat.toDigits 10 n) = n := by
  induction n using Nat.strongRecOn with
  | ind n ih =>
      by_cases h : n < 10
      · simp [Nat.toDigits_of_lt_base h, natOfDigits, (digitChar_decimal n h).2]
      · have hdiv := ih (n / 10) (by omega)
        rw [natOfDigits] at hdiv ⊢
        rw [Nat.toDigits_of_base_le (by decide) (by omega), List.foldl_append, hdiv]
        simp only [List.foldl_cons, List.foldl_nil, (digitChar_decimal (n % 10) (by omega)).2]
        omega

/-- The code points of ASCII digits. -/
theorem toNat_of_digit {c : Char} (h : isAsciiDigit c = true) : 48 ≤ c.toNat ∧ c.toNat ≤ 57 := by
  simpa [isAsciiDigit, Char.le_def, UInt32.le_iff_toNat_le] using h

/-- A text that starts with no sign is a number without a sign if it has ASCII digits only. -/
theorem parseNat?_unsigned {d : Char} {ds : List Char} (hplus : d ≠ '+') :
    parseNat? (d :: ds) =
      if (d :: ds).all isAsciiDigit then some (natOfDigits (d :: ds)) else none := by
  unfold parseNat?
  split
  · next heq => exact absurd (List.cons.inj heq).1 hplus
  · show (if (!(d :: ds).all isAsciiDigit) = true then none else some (natOfDigits (d :: ds))) = _
    cases (d :: ds).all isAsciiDigit <;> rfl

/-- A text that starts with a digit is a number if it has ASCII digits only. -/
theorem parseInt?_digits {d : Char} {ds : List Char} (hd : isDecimalDigit d = true) :
    parseInt? (d :: ds) =
      if (d :: ds).all isAsciiDigit then some (natOfDigits (d :: ds) : ℤ) else none := by
  have hminus : d ≠ '-' := by
    rintro rfl
    exact absurd hd (by decide)
  have hplus : d ≠ '+' := by
    rintro rfl
    exact absurd hd (by decide)
  unfold parseInt?
  split
  · next heq => exact absurd (List.cons.inj heq).1 hminus
  · rw [parseNat?_unsigned hplus]
    cases (d :: ds).all isAsciiDigit <;> rfl

/-- Zeros before digits do not change the number that they write. -/
theorem natOfDigits_zeros (zeros : ℕ) (ds : List Char) :
    natOfDigits (List.replicate zeros '0' ++ ds) = natOfDigits ds := by
  induction zeros with
  | zero => rfl
  | succ zeros ih => exact ih

/-- Digits are read as the number that they write, also after zeros, if it is below the limit. -/
theorem parseBelow?_toDigits (limit zeros n : ℕ) :
    parseBelow? limit (List.replicate zeros '0' ++ Nat.toDigits 10 n) =
      if n < limit then some n else none := by
  have hdigits : (List.replicate zeros '0' ++ Nat.toDigits 10 n).all isAsciiDigit = true := by
    rw [List.all_append, all_toDigits, Bool.and_true, List.all_replicate]
    cases zeros <;> rfl
  have hnumber := natOfDigits_zeros zeros (Nat.toDigits 10 n)
  rw [natOfDigits_toDigits] at hnumber
  obtain ⟨d, ds, htext⟩ := List.exists_cons_of_ne_nil
    (List.append_ne_nil_of_right_ne_nil (List.replicate zeros '0')
      (Nat.toDigits_ne_nil (n := n) (b := 10)))
  rw [htext] at hdigits hnumber ⊢
  have hplus : d ≠ '+' := by
    rintro rfl
    exact absurd (List.all_eq_true.1 hdigits '+' List.mem_cons_self) (by decide)
  rw [parseBelow?, parseNat?_unsigned hplus, if_pos hdigits, hnumber]
  by_cases hn : n < limit <;> simp [Option.filter, hn]

/-- ASCII digits are decimal digits. -/
theorem all_isDecimalDigit {ds : List Char} (h : ds.all isAsciiDigit = true) :
    ds.all isDecimalDigit = true := by
  rw [List.all_eq_true] at h ⊢
  intro c hc
  have hdigit := h c hc
  have hlt : c.toNat < 128 := by
    have := toNat_of_digit hdigit
    omega
  rwa [isDecimalDigit, if_pos hlt]

/-- Digits are read as the number that they write, if it is a word. -/
theorem parseInt64?_digits {ds : List Char} (hne : ds ≠ []) (hds : ds.all isDecimalDigit = true) :
    parseInt64? ds =
      if ds.all isAsciiDigit ∧ natOfDigits ds < 2 ^ 63 then some (Int64.ofInt (natOfDigits ds))
      else none := by
  obtain ⟨d, ds, rfl⟩ := List.exists_cons_of_ne_nil hne
  rw [List.all_cons, Bool.and_eq_true] at hds
  have hmin : Int64.minValue.toInt = -2 ^ 63 := rfl
  have hmax : Int64.maxValue.toInt = 2 ^ 63 - 1 := rfl
  rw [parseInt64?, parseInt?_digits hds.1, hmin, hmax]
  generalize natOfDigits (d :: ds) = n
  cases (d :: ds).all isAsciiDigit with
  | false => rfl
  | true =>
      by_cases hn : n < 2 ^ 63
      · rw [if_pos rfl, if_pos ⟨rfl, hn⟩]
        exact if_pos ⟨by omega, by omega⟩
      · rw [if_pos rfl, if_neg (fun h => hn h.2)]
        exact if_neg (fun h => hn (by omega))

end SeriesQuery.Text
