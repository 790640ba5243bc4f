import Mathlib.Data.List.Forall2
import SeriesQuery.Proofs.Text.Digits
import SeriesQuery.Proofs.Text.Runs
import SeriesQuery.Text.Entity

/-!
# Texts with character references

A text can be written in many ways: each of its characters as it is, or as one of its references.
`Written` says which texts stand for a character, and `decodeEntities_written` that decoding gives
the text back, however it was written. A reference ends at its semicolon, and what it stands for is
not looked at again, so that neighbouring pieces never make a reference together.
-/

namespace SeriesQuery.Text

/-- The names of characters, between the ampersand and the semicolon of a reference. -/
def referenceNames : List (String × Char) :=
  [("amp", '&'), ("lt", '<'), ("gt", '>'), ("quot", '"'), ("#39", '\'')]

/-- The digit for a number below 16, as a capital letter where it is a letter and that is wanted. -/
def digitText (d : ℕ × Bool) : Char :=
  if d.2 then (Nat.digitChar d.1).toUpper else Nat.digitChar d.1

/-- What may follow the ampersand of a reference to a character. -/
inductive Reference (c : Char) : List Char → Prop where
  /-- A name. -/
  | named (name : String) (h : (name, c) ∈ referenceNames) : Reference c (name.toList ++ [';'])
  /-- One to five decimal digits of the code point, the most significant one first. -/
  | decimal (ds : List ℕ) (hdigits : ∀ d ∈ ds, d < 10) (hlength : 1 ≤ ds.length ∧ ds.length ≤ 5)
      (hvalue : Nat.ofDigits 10 ds.reverse = c.toNat) :
      Reference c ('#' :: (ds.map Nat.digitChar ++ [';']))
  /-- One to four hexadecimal digits of the code point, each letter in either case. -/
  | hexadecimal (ds : List (ℕ × Bool)) (hdigits : ∀ d ∈ ds, d.1 < 16)
      (hlength : 1 ≤ ds.length ∧ ds.length ≤ 4)
      (hvalue : Nat.ofDigits 16 (ds.map Prod.fst).reverse = c.toNat) :
      Reference c ('#' :: 'x' :: (ds.map digitText ++ [';']))

/-- The texts that stand for a character. -/
inductive Written (c : Char) : List Char → Prop where
  /-- The character as it is, if it is no ampersand. -/
  | plain (h : c ≠ '&') : Written c [c]
  /-- A reference to the character. -/
  | reference {body : List Char} (h : Reference c body) : Written c ('&' :: body)

/-- Hexadecimal digits are recognised and have their values, in either case. -/
theorem digitText_hexadecimal : ∀ upper, ∀ d < 16,
    isHexDigit (digitText (d, upper)) = true ∧ hexDigitValue (digitText (d, upper)) = d := by
  decide

/-- Digits are taken up to their semicolon. -/
theorem digitsToSemicolon?_eq {isDigit : Char → Bool} {width : ℕ} {ds rest : List Char}
    (hds : ds.all isDigit = true) (hsemicolon : isDigit ';' = false)
    (hlength : 1 ≤ ds.length ∧ ds.length ≤ width) :
    digitsToSemicolon? isDigit width (ds ++ ';' :: rest) = some ds := by
  have hrun : (ds ++ ';' :: rest).takeWhile isDigit = ds :=
    (takeWhile_run hds (by simpa using hsemicolon)).1
  have hmem : ds.length ∈ List.range' 1 width := by
    rw [List.mem_range'_1]
    omega
  rw [digitsToSemicolon?, hrun]
  simp only [List.drop_left, List.head?_cons, hmem, and_self, if_true]

/-- The code point of a character gives the character back. -/
theorem charOfNat?_toNat (c : Char) : charOfNat? c.toNat = some c := by
  rw [charOfNat?, if_pos (show c.toNat.isValidChar from c.valid), Char.ofNat_toNat]

/-- A name is read as its character. -/
theorem entity?_named {c : Char} {name : String} (h : (name, c) ∈ referenceNames)
    (rest : List Char) :
    entity? (name.toList ++ ';' :: rest) = some (c, name.toList.length + 1) := by
  simp only [referenceNames, List.mem_cons, List.not_mem_nil, or_false, Prod.mk.injEq] at h
  rcases h with ⟨rfl, rfl⟩ | ⟨rfl, rfl⟩ | ⟨rfl, rfl⟩ | ⟨rfl, rfl⟩ | ⟨rfl, rfl⟩ <;> rfl

/-- Behind a sharp sign there is a name only if it is that of the apostrophe. -/
theorem find?_namedEntities {s : List Char} (h : after? ['3', '9', ';'] s = none) :
    namedEntities.find? (fun (name, _) => (after? name ('#' :: s)).isSome) = none := by
  simp [namedEntities, after?, h]

/-- A decimal number is read as its character. -/
theorem entity?_decimal {c : Char} {ds : List Char} (hds : ds.all isAsciiDigit = true)
    (hlength : 1 ≤ ds.length ∧ ds.length ≤ 5) (hvalue : natOfDigits ds = c.toNat)
    (rest : List Char) :
    entity? ('#' :: (ds ++ ';' :: rest)) = some (c, ds.length + 2) := by
  cases hname : after? ['3', '9', ';'] (ds ++ ';' :: rest) with
  | none =>
      have hx : ∀ more, ds ++ ';' :: rest ≠ 'x' :: more := by
        intro more h
        cases ds with
        | nil => exact absurd hlength.1 (by decide)
        | cons d ds =>
            obtain ⟨rfl, -⟩ := List.cons.inj h
            exact absurd hds (by simp [isAsciiDigit])
      rw [entity?, find?_namedEntities hname]
      · show (digitsToSemicolon? isAsciiDigit 5 (ds ++ ';' :: rest)).bind _ = _
        rw [digitsToSemicolon?_eq hds (by decide) hlength, Option.bind_some, hvalue,
          charOfNat?_toNat]
        rfl
      · exact hx
  | some after =>
      -- the digits of the apostrophe are also its name
      have htext := after?_eq_some_iff.1 hname
      have hrun : (ds ++ ';' :: rest).takeWhile isAsciiDigit = ds :=
        (takeWhile_run hds (by simp [isAsciiDigit])).1
      rw [htext] at hrun
      obtain rfl : ['3', '9'] = ds := by simpa [isAsciiDigit] using hrun
      obtain rfl : c = '\'' := Char.toNat_inj.1 hvalue.symm
      rfl

/-- A hexadecimal number is read as its character. -/
theorem entity?_hexadecimal {c : Char} {ds : List Char} (hds : ds.all isHexDigit = true)
    (hlength : 1 ≤ ds.length ∧ ds.length ≤ 4) (hvalue : natOfHexDigits ds = c.toNat)
    (rest : List Char) :
    entity? ('#' :: 'x' :: (ds ++ ';' :: rest)) = some (c, ds.length + 3) := by
  rw [entity?, find?_namedEntities rfl]
  show (digitsToSemicolon? isHexDigit 4 (ds ++ ';' :: rest)).bind _ = _
  rw [digitsToSemicolon?_eq hds (by decide) hlength, Option.bind_some, hvalue, charOfNat?_toNat]
  rfl

/-- A reference is read as its character, and to its end. -/
theorem entity?_reference {c : Char} {body : List Char} (h : Reference c body)
    (rest : List Char) : entity? (body ++ rest) = some (c, body.length) := by
  cases h with
  | named name hname => simpa using entity?_named hname rest
  | decimal ds hdigits hlength hvalue =>
      have hall : (ds.map Nat.digitChar).all isAsciiDigit = true := by
        rw [List.all_map, List.all_eq_true]
        intro d hd
        exact (digitChar_decimal d (hdigits d hd)).1
      have hread : natOfDigits (ds.map Nat.digitChar) = c.toNat := by
        have hfold := foldl_digits 10 digitValue Nat.digitChar id fun d hd =>
          (digitChar_decimal d (hdigits d hd)).2
        rw [natOfDigits, hfold, List.map_id, hvalue]
      simpa using entity?_decimal hall (by simpa using hlength) hread rest
  | hexadecimal ds hdigits hlength hvalue =>
      have hall : (ds.map digitText).all isHexDigit = true := by
        rw [List.all_map, List.all_eq_true]
        intro d hd
        exact (digitText_hexadecimal d.2 d.1 (hdigits d hd)).1
      have hread : natOfHexDigits (ds.map digitText) = c.toNat := by
        have hfold := foldl_digits 16 hexDigitValue digitText Prod.fst fun d hd =>
          (digitText_hexadecimal d.2 d.1 (hdigits d hd)).2
        rw [natOfHexDigits, hfold, hvalue]
      simpa using entity?_hexadecimal hall (by simpa using hlength) hread rest

/-- What stands for a character is decoded to it, and decoding goes on behind it. -/
theorem decodeEntityChars_written {c : Char} {piece : List Char} (h : Written c piece)
    (rest : List Char) : decodeEntityChars (piece ++ rest) = c :: decodeEntityChars rest := by
  cases h with
  | plain h => rw [List.singleton_append, decodeEntityChars, if_neg h]
  | @reference body h =>
      rw [List.cons_append, decodeEntityChars, if_pos rfl, entity?_reference h]
      show c :: decodeEntityChars ((body ++ rest).drop body.length) = _
      rw [List.drop_left]

/-- Characters are decoded one after the other. -/
theorem decodeEntityChars_flatten {cs : List Char} {pieces : List (List Char)}
    (h : List.Forall₂ Written cs pieces) : decodeEntityChars pieces.flatten = cs := by
  induction h with
  | nil => rw [List.flatten_nil, decodeEntityChars]
  | cons hpiece _ ih => rw [List.flatten_cons, decodeEntityChars_written hpiece, ih]

/-- Decoding gives a text back, however its characters were written. -/
theorem decodeEntities_written {s : String} {pieces : List (List Char)}
    (h : List.Forall₂ Written s.toList pieces) :
    decodeEntities (String.ofList pieces.flatten) = s := by
  rw [decodeEntities, String.toList_ofList, decodeEntityChars_flatten h, String.ofList_toList]

/-- One way of writing `&lt;''<J`: an ampersand before text that looks like a reference, references
one after the other, and numbers with leading zeros and letters of both cases. -/
def neighbours : List (List Char) :=
  [['&', 'a', 'm', 'p', ';'], ['l'], ['t'], [';'], ['&', '#', '3', '9', ';'],
    ['&', '#', '0', '0', '0', '3', '9', ';'], ['&', '#', 'x', '0', '0', '3', 'c', ';'],
    ['&', '#', 'x', '4', 'A', ';']]

/-- Neighbouring pieces make no reference together, and each of them is decoded once. -/
theorem decodeEntities_neighbours :
    List.Forall₂ Written "&lt;''<J".toList neighbours ∧
      decodeEntities (String.ofList neighbours.flatten) = "&lt;''<J" := by
  have hwritten : List.Forall₂ Written "&lt;''<J".toList neighbours := by
    refine .cons (.reference (.named "amp" (by decide))) ?_
    refine .cons (.plain (by decide)) (.cons (.plain (by decide)) (.cons (.plain (by decide)) ?_))
    refine .cons (.reference (.named "#39" (by decide))) ?_
    refine .cons (.reference (.decimal [0, 0, 0, 3, 9] (by decide) (by decide) rfl)) ?_
    refine .cons (.reference (.hexadecimal [(0, true), (0, true), (3, true), (12, false)]
      (by decide) (by decide) rfl)) ?_
    refine .cons (.reference (.hexadecimal [(4, false), (10, true)]
      (by decide) (by decide) rfl)) ?_
    exact .nil
  exact ⟨hwritten, decodeEntities_written hwritten⟩

end SeriesQuery.Text
