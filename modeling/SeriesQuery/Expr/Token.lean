import SeriesQuery.Expr.Syntax
import SeriesQuery.Number.Nearest

/-!
# Tokens of expressions

Each reader looks at the start of a text and gives what it found with the text after it. A word ends
where no letter, numeral or underscore follows; spaces are blanks, tabs and line ends. Beside every
reader stands the fact that what it leaves is shorter.
-/

namespace SeriesQuery.Token

/-- Whether a character is a space between tokens. -/
def isSpace (c : Char) : Bool := c == ' ' || c == '\t' || c == '\r' || c == '\n'

/-- The text from its first character that is no space. -/
def skip (s : List Char) : List Char := s.dropWhile isSpace

/-- Whether a character may begin a word. -/
def isWordStart (c : Char) : Bool := Text.isLetter c || c == '_'

/-- Whether a character may go on a word. -/
def isWordChar (c : Char) : Bool := Text.isAlphanumeric c || c == '_'

/-- Reads a word. -/
def word? : List Char → Option (List Char × List Char)
  | [] => none
  | c :: rest =>
    if isWordStart c then some (c :: rest.takeWhile isWordChar, rest.dropWhile isWordChar)
    else none

/-- Whether a text is a keyword in some letter case; keywords have ASCII letters only. -/
def isKeyword (keyword : String) (s : List Char) : Bool :=
  s.map Char.toUpper == keyword.toList

/-- Reads a keyword. -/
def keyword? (keyword : String) (s : List Char) : Option (List Char) :=
  match word? s with
  | some (found, after) => if isKeyword keyword found then some after else none
  | none => none

/-- Reads a keyword or a sign for it. -/
def keywordOr? (keyword sign : String) (s : List Char) : Option (List Char) :=
  (keyword? keyword s).or (Text.after? sign.toList s)

/-- Reads an operator that stands between two operands at a level. -/
def operator? (level : Level) (s : List Char) : Option (Operator × List Char) :=
  match level with
  | .disjunction => (keywordOr? "OR" "||" s).map (Operator.or, ·)
  | .conjunction => (keywordOr? "AND" "&&" s).map (Operator.and, ·)
  | .comparison =>
    match s with
    | '=' :: '=' :: rest => some (.eq, rest)
    | '!' :: '=' :: rest => some (.ne, rest)
    | '<' :: '=' :: rest => some (.le, rest)
    | '>' :: '=' :: rest => some (.ge, rest)
    | '<' :: rest => some (.lt, rest)
    | '>' :: rest => some (.gt, rest)
    | _ =>
      match keyword? "NOT" s with
      | some rest =>
        let after := skip rest
        if after.length < rest.length then (keyword? "IN" after).map (Operator.notIn, ·) else none
      | none => (keyword? "IN" s).map (Operator.isIn, ·)
  | .sum =>
    match s with
    | '+' :: rest => some (.add, rest)
    | '-' :: rest => some (.sub, rest)
    | _ => none
  | .product =>
    match s with
    | '*' :: rest => some (.mul, rest)
    | '/' :: rest => some (.div, rest)
    | '%' :: rest => some (.mod, rest)
    | _ => none
  | _ => none

/-- Reads the sign of a negation and the spaces after it. -/
def negation? (s : List Char) : Option (List Char) := (keywordOr? "NOT" "!" s).map skip

/-- Reads the sign of an opposite number and the spaces after it. -/
def minus? : List Char → Option (List Char)
  | '-' :: rest => some (skip rest)
  | _ => none

/-- Reads a comma and the spaces around it. -/
def comma? (s : List Char) : Option (List Char) :=
  match skip s with
  | ',' :: rest => some (skip rest)
  | _ => none

/-- Reads an opening character and the spaces around it. -/
def opening? (c : Char) (s : List Char) : Option (List Char) :=
  match skip s with
  | d :: rest => if c = d then some (skip rest) else none
  | [] => none

/-- Reads a closing character and the spaces before it. -/
def closing? (c : Char) (s : List Char) : Option (List Char) :=
  match skip s with
  | d :: rest => if c = d then some rest else none
  | [] => none

/-- The digits of a fraction, if a point and a digit come next. -/
def fraction (s : List Char) : List Char × List Char :=
  match s with
  | '.' :: rest =>
    match rest.takeWhile Text.isAsciiDigit with
    | [] => ([], s)
    | ds => (ds, rest.dropWhile Text.isAsciiDigit)
  | _ => ([], s)

/-- The exponent, if an `e`, perhaps a sign, and a digit come next. -/
def exponent? (s : List Char) : Option (Int × List Char) :=
  match s with
  | c :: rest =>
    if c = 'e' ∨ c = 'E' then
      let (minus, rest) := match rest with
        | '+' :: rest => (false, rest)
        | '-' :: rest => (true, rest)
        | _ => (false, rest)
      match rest.takeWhile Text.isAsciiDigit with
      | [] => none
      | ds =>
        let n : Int := Text.natOfDigits ds
        some (if minus then -n else n, rest.dropWhile Text.isAsciiDigit)
    else none
  | [] => none

/-- Reads a number without a sign: an integer of 64 bits if it has only digits and fits, and
otherwise the nearest double, if there is a finite one. -/
def number? (s : List Char) : Option (Number × List Char) :=
  match s.takeWhile Text.isAsciiDigit with
  | [] => none
  | whole =>
    let (part, rest) := fraction (s.dropWhile Text.isAsciiDigit)
    let n := Text.natOfDigits whole
    let x := Text.natOfDigits (whole ++ part)
    let double (e : Int) (after : List Char) : Option (Number × List Char) :=
      let y := Nearest.ofDecimal x (e - part.length)
      if Binary64.isFinite y then some (.float y, after) else none
    match exponent? rest with
    | some (e, after) => double e after
    | none => if part.isEmpty && n < pow2 63 then some (.int n, rest) else double 0 rest

/-- The characters up to an unescaped quotation mark, with escapes resolved, and the text after the
mark. -/
def quotedRest? (mark : Char) : List Char → Option (List Char × List Char)
  | [] => none
  | '\\' :: [] => none
  | '\\' :: c :: rest =>
    let c := if c = 'n' then '\n' else if c = 't' then '\t' else if c = 'r' then '\r' else c
    (quotedRest? mark rest).map fun (cs, after) => (c :: cs, after)
  | c :: rest =>
    if c = mark then some ([], rest)
    else (quotedRest? mark rest).map fun (cs, after) => (c :: cs, after)

/-- Reads a text in single or double quotation marks. -/
def quoted? : List Char → Option (String × List Char)
  | c :: rest =>
    if c = '\'' ∨ c = '"' then
      (quotedRest? c rest).map fun (cs, after) => (String.ofList cs, after)
    else none
  | [] => none

/-- Reads the name of a step after its point. -/
def stepName? (s : List Char) : Option (String × List Char) :=
  match s.takeWhile isWordChar with
  | [] => none
  | name => some (String.ofList name, s.dropWhile isWordChar)

theorem length_skip_le (s : List Char) : (skip s).length ≤ s.length :=
  (List.dropWhile_suffix isSpace).length_le

theorem length_after?_lt {word s rest : List Char} (hw : word ≠ [])
    (h : Text.after? word s = some rest) : rest.length < s.length := by
  induction word generalizing s with
  | nil => exact absurd rfl hw
  | cons c word ih =>
    cases s with
    | nil => simp [Text.after?] at h
    | cons d s =>
      rw [Text.after?] at h
      split at h
      · by_cases hword : word = []
        · subst hword
          simp [Text.after?] at h
          simp [h]
        · have := ih hword h
          simp only [List.length_cons]
          omega
      · simp at h

theorem length_word?_lt {s found rest : List Char} (h : word? s = some (found, rest)) :
    rest.length < s.length := by
  cases s with
  | nil => simp [word?] at h
  | cons c s =>
    simp only [word?] at h
    split at h
    · simp only [Option.some.injEq, Prod.mk.injEq] at h
      rw [← h.2]
      have : (s.dropWhile isWordChar).length ≤ s.length :=
        (List.dropWhile_suffix isWordChar).length_le
      simp only [List.length_cons]
      omega
    · simp at h

theorem length_keyword?_lt {keyword : String} {s rest : List Char}
    (h : keyword? keyword s = some rest) : rest.length < s.length := by
  unfold keyword? at h
  split at h
  · next found after hw =>
    split at h
    · cases h
      exact length_word?_lt hw
    · simp at h
  · simp at h

theorem length_negation?_lt {s rest : List Char} (h : negation? s = some rest) :
    rest.length < s.length := by
  simp only [negation?, keywordOr?, Option.map_eq_some_iff, Option.or_eq_some_iff] at h
  obtain ⟨a, ha, rfl⟩ := h
  have := length_skip_le a
  rcases ha with ha | ⟨_, ha⟩
  · have := length_keyword?_lt ha
    omega
  · have := length_after?_lt (by decide) ha
    omega

theorem length_minus?_lt {s rest : List Char} (h : minus? s = some rest) :
    rest.length < s.length := by
  unfold minus? at h
  split at h
  · next after =>
    cases h
    have := length_skip_le after
    simp only [List.length_cons]
    omega
  · simp at h

theorem length_opening?_lt {c : Char} {s rest : List Char} (h : opening? c s = some rest) :
    rest.length < s.length := by
  have hs := length_skip_le s
  unfold opening? at h
  split at h
  · next d after hd =>
    split at h
    · cases h
      have := length_skip_le after
      rw [hd] at hs
      simp only [List.length_cons] at hs
      omega
    · simp at h
  · simp at h

end SeriesQuery.Token
