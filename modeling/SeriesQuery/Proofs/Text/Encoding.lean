import SeriesQuery.Json.Lexeme
import SeriesQuery.Proofs.Text.Order

/-!
# Texts in URLs

What `percentEncode` writes into a path can be read back byte by byte, so two texts that are written
in the same way are one text.
-/

namespace SeriesQuery.Text

/-- The bytes that a path stands for: three characters from a percent sign on are one byte. -/
def percentDecode : List Char → List Nat
  | '%' :: high :: low :: rest =>
    (((Lexeme.hexDigit? high).getD 0) * 16 + (Lexeme.hexDigit? low).getD 0) :: percentDecode rest
  | c :: rest => c.toNat :: percentDecode rest
  | [] => []

/-- The value of a digit is the number that it was made from. -/
theorem hexDigit?_upperHexDigit : ∀ n < 16, Lexeme.hexDigit? (upperHexDigit n) = some n := by
  decide

/-- The code point of a character below 128 is its number. -/
theorem toNat_ofNat_ascii {b : Nat} (hb : b < 128) : (Char.ofNat b).toNat = b := by
  have hvalid : b.isValidChar := .inl (by omega)
  rw [Char.ofNat, dif_pos hvalid]
  rfl

/-- A percent sign is not written as it is. -/
theorem percentByte_percent : percentByte 37 = ['%', '2', '5'] := by decide

/-- A byte is read back, and what follows it is left. -/
theorem percentDecode_percentByte {b : Nat} (hb : b < 256) (rest : List Char) :
    percentDecode (percentByte b ++ rest) = b :: percentDecode rest := by
  by_cases hpercent : b = 37
  · subst hpercent
    rw [percentByte_percent]
    rfl
  dsimp only [percentByte]
  split
  · next hplain =>
      have hascii : b < 128 := by
        simp only [Bool.and_eq_true, decide_eq_true_eq] at hplain
        exact hplain.1
      have hne : Char.ofNat b ≠ '%' := by
        intro h
        have := congrArg Char.toNat h
        rw [toNat_ofNat_ascii hascii] at this
        exact hpercent this
      rw [List.singleton_append, percentDecode, toNat_ofNat_ascii hascii]
      intro high low rest' h
      exact absurd h hne
  · show percentDecode ('%' :: upperHexDigit (b / 16) :: upperHexDigit (b % 16) :: rest) = _
    rw [percentDecode, hexDigit?_upperHexDigit _ (by omega), hexDigit?_upperHexDigit _ (by omega)]
    show (b / 16 * 16 + b % 16) :: _ = _
    congr 1
    omega

/-- Bytes are read back. -/
theorem percentDecode_flatMap {bs : List Nat} (h : ∀ b ∈ bs, b < 256) :
    percentDecode (bs.flatMap percentByte) = bs := by
  induction bs with
  | nil => rfl
  | cons b bs ih =>
      rw [List.flatMap_cons, percentDecode_percentByte (h b List.mem_cons_self),
        ih fun c hc => h c (List.mem_cons_of_mem _ hc)]

/-- Bytes are below 256. -/
theorem bytes_lt (s : String) : ∀ b ∈ bytes s, b < 256 := by
  intro b hb
  obtain ⟨w, -, rfl⟩ := List.mem_map.1 hb
  exact w.toNat_lt

/-- Texts with the same bytes are one text. -/
theorem bytes_injective : Function.Injective bytes := by
  intro s t h
  exact le_antisymm (bytes_le_iff.1 h.le) (bytes_le_iff.1 h.ge)

/-- Texts that are written in the same way are one text. -/
theorem percentEncode_injective : Function.Injective percentEncode := by
  intro s t h
  have hbytes := congrArg percentDecode (String.ofList_injective h)
  rw [percentDecode_flatMap (bytes_lt s), percentDecode_flatMap (bytes_lt t)] at hbytes
  exact bytes_injective hbytes

end SeriesQuery.Text
