import Mathlib.Data.List.DropRight
import Mathlib.Data.List.TakeDrop
import Mathlib.Data.List.TakeWhile
import SeriesQuery.Text.Blank
import SeriesQuery.Text.Bytes
import SeriesQuery.Text.Letter

/-!
# Words and runs at the start of a text

What follows a word or a run of characters of one kind, what trimming leaves, and the length of a
text in bytes.
-/

namespace SeriesQuery.Text

/-- A run of characters of a kind ends where another character follows. -/
theorem takeWhile_run {p : Char → Bool} {w rest : List Char} (hw : w.all p = true)
    (hrest : ∀ c ∈ rest.head?, p c = false) :
    (w ++ rest).takeWhile p = w ∧ (w ++ rest).dropWhile p = rest := by
  rw [List.takeWhile_append_of_pos (by simpa using hw),
    List.dropWhile_append_of_pos (by simpa using hw)]
  cases rest with
  | nil => simp
  | cons c s => simp [hrest c (by simp)]

/-- A run and what follows it. -/
theorem span_run {p : Char → Bool} {w rest : List Char} (hw : w.all p = true)
    (hrest : ∀ c ∈ rest.head?, p c = false) : (w ++ rest).span p = (w, rest) := by
  obtain ⟨htake, hdrop⟩ := takeWhile_run hw hrest
  rw [List.span_eq_takeWhile_dropWhile, htake, hdrop]

/-- The text after a word is what the word is followed by. -/
theorem after?_eq_some_iff {word s rest : List Char} :
    after? word s = some rest ↔ s = word ++ rest := by
  induction word generalizing s with
  | nil => simp [after?]
  | cons c word ih =>
      cases s with
      | nil => simp [after?]
      | cons d s =>
          rw [after?]
          by_cases h : c = d
          · simp [h, ih]
          · simp [h, Ne.symm h]

/-- There is a text after a word exactly where the text starts with it. -/
theorem isSome_after?_iff {word s : List Char} : (after? word s).isSome = true ↔ word <+: s := by
  rw [Option.isSome_iff_exists]
  exact exists_congr fun rest => after?_eq_some_iff.trans eq_comm

/-- What trimming leaves has no blanks at its ends. -/
theorem trimChars_trimChars (s : List Char) : trimChars (trimChars s) = trimChars s := by
  have hstart : trimChars s <+: trimLeft s := List.rdropWhile_prefix isBlank _
  have hfront : trimLeft (trimChars s) = trimChars s := by
    refine List.dropWhile_eq_self_iff.2 fun hpos => ?_
    rw [hstart.getElem hpos]
    exact List.dropWhile_get_zero_not isBlank s _
  rw [trimChars, hfront]
  exact List.rdropWhile_idempotent isBlank _

/-- A trimmed text is trimmed already. -/
theorem trim_trim (s : String) : trim (trim s) = trim s := by
  rw [trim, trim, String.toList_ofList, trimChars_trimChars]

/-- The length in bytes of characters is that of their text. -/
theorem byteCount_eq (s : List Char) : byteCount s = (String.ofList s).utf8ByteSize := by
  induction s with
  | nil => rfl
  | cons c s ih => simp [ih]

end SeriesQuery.Text
