import Mathlib.Data.String.Basic
import SeriesQuery.Text.Encoding

/-!
# The order of texts

Texts are ordered by the code points of their characters. UTF-8 is made so that this is also the
order of their bytes.
-/

namespace SeriesQuery.Text

/-- A list of bytes is read from an array up to its end. -/
theorem toList_loop (b : ByteArray) (i : Nat) (r : List UInt8) :
    ByteArray.toList.loop b i r = r.reverse ++ b.data.toList.drop i := by
  fun_induction ByteArray.toList.loop b i r with
  | case1 i r hi ih =>
      have hlength : i < b.data.toList.length := hi
      have hget : b.get! i = b.data.toList[i] := by
        rw [ByteArray.get!, getElem!_pos b.data i hi, Array.getElem_toList]
      rw [ih, List.drop_eq_getElem_cons hlength, hget, List.reverse_cons, List.append_assoc]
      rfl
  | case2 i r hi =>
      have hlength : b.data.toList.length ≤ i := Nat.le_of_not_lt hi
      rw [List.drop_eq_nil_of_le hlength, List.append_nil]

/-- The bytes of a character. -/
def charBytes (c : Char) : List Nat := (String.utf8EncodeChar c).map UInt8.toNat

/-- The bytes of a text are those of its characters. -/
theorem bytes_eq (s : String) : bytes s = s.toList.flatMap charBytes := by
  have hbytes : s.toUTF8 = (s.toList.flatMap String.utf8EncodeChar).toByteArray :=
    String.utf8Encode_toList.symm
  rw [bytes, hbytes, ByteArray.toList, toList_loop, List.reverse_nil, List.nil_append,
    List.drop_zero, List.toList_data_toByteArray, List.map_flatMap]
  rfl

/-- The bytes of a character by its code point: six bits a byte, as many bytes as it takes, and the
number of bytes in the first of them. -/
theorem charBytes_eq (c : Char) : charBytes c =
    if c.toNat ≤ 127 then [c.toNat]
    else if c.toNat ≤ 2047 then [192 + c.toNat / 64, 128 + c.toNat % 64]
    else if c.toNat ≤ 65535 then
      [224 + c.toNat / 4096, 128 + c.toNat / 64 % 64, 128 + c.toNat % 64]
    else
      [240 + c.toNat / 262144, 128 + c.toNat / 4096 % 64, 128 + c.toNat / 64 % 64,
        128 + c.toNat % 64] := by
  -- without a bound on code points the first byte of four could wrap
  have hc : c.toNat < 1114112 := by
    have := c.valid
    simp only [Char.toNat, UInt32.isValidChar, Nat.isValidChar] at this ⊢
    omega
  have hval : c.val.toNat = c.toNat := rfl
  simp only [charBytes, String.utf8EncodeChar, hval]
  split_ifs <;>
    simp only [List.map_cons, List.map_nil, UInt8.toNat_ofNat', List.cons.injEq, and_true] <;>
    omega

/-- A character that comes before another one has the smaller bytes, whatever follows. -/
theorem charBytes_lt {c d : Char} (h : c < d) (s t : List Nat) :
    charBytes c ++ s < charBytes d ++ t := by
  have hcd : c.toNat < d.toNat := h
  rw [charBytes_eq, charBytes_eq]
  -- the first byte of a longer form is larger, and forms of one length are digits of the code point
  split_ifs <;> simp only [List.cons_append, List.nil_append, List.cons_lt_cons_iff] <;> omega

/-- Characters that come before others have the smaller bytes. -/
theorem flatMap_charBytes_lt {s t : List Char} (h : s < t) :
    s.flatMap charBytes < t.flatMap charBytes := by
  induction s generalizing t with
  | nil =>
      cases t with
      | nil => exact absurd h (lt_irrefl _)
      | cons d t =>
          obtain ⟨b, bs, hb⟩ : ∃ b bs, charBytes d = b :: bs :=
            List.exists_cons_of_ne_nil (by simp [charBytes])
          rw [List.flatMap_cons, hb]
          exact List.nil_lt_cons _ _
  | cons c s ih =>
      cases t with
      | nil => exact absurd h (List.not_lt_nil _)
      | cons d t =>
          rw [List.flatMap_cons, List.flatMap_cons]
          rcases List.cons_lt_cons_iff.1 h with hcd | ⟨rfl, hst⟩
          · exact charBytes_lt hcd _ _
          · exact List.append_left_lt (ih hst)

/-- The order of texts is the order of their bytes. -/
theorem bytes_le_iff {s t : String} : bytes s ≤ bytes t ↔ s ≤ t := by
  have hstrict : StrictMono bytes := by
    intro s t h
    rw [bytes_eq, bytes_eq]
    exact flatMap_charBytes_lt (String.lt_iff_toList_lt.1 h)
  exact hstrict.le_iff_le

end SeriesQuery.Text
