import SeriesQuery.Json.Decode
import SeriesQuery.Toml.Scalar
import SeriesQuery.Toml.Table

/-!
# Reading TOML

A text is a sequence of lines: blank lines and comments, headers of tables, and keys with values.
`Toml.parse?` gives the document of the whole text, or nothing if some line is none of these or
binds what is bound already, and `Toml.rules` says how it is decoded. Values are nested to at most
`Toml.maxNesting` levels, and so many parts a key may have.
-/

namespace SeriesQuery.Toml

/-- Whether a character may stand in a key without marks. -/
def isKeyChar (c : Char) : Bool := Text.isAsciiAlphanumeric c || c == '_' || c == '-'

/-- Levels of arrays and tables that a value may have, and parts that a key may have. -/
def maxNesting : Nat := 79

/-- Reads one part of a key. -/
def keyPart? (s : List Char) : Option (String × List Char) :=
  match s.takeWhile isKeyChar with
  | [] => lineText? s
  | part => some (String.ofList part, s.drop part.length)

/-- Reads at most `count` parts of a key with points between them, and blanks around each. -/
def keyParts? : (count : Nat) → List Char → Option ((List String × String) × List Char)
  | 0, _ => none
  | count + 1, s => do
    let (part, s) ← keyPart? (skipBlank s)
    match skipBlank s with
    | '.' :: rest =>
      let ((through, last), rest) ← keyParts? count rest
      some ((part :: through, last), rest)
    | rest => some (([], part), rest)

/-- Reads a key: the parts that lead to a table, and the last part. -/
def key? (s : List Char) : Option ((List String × String) × List Char) := keyParts? maxNesting s

/-- The text after a comment, or the same text. -/
def skipComment (s : List Char) : List Char :=
  match s with
  | '#' :: rest => rest.dropWhile isPrintable
  | _ => s

/-- The text after blanks, comments and line ends; nothing if a comment does not end with its
line. -/
def skipLines? : (fuel : Nat) → List Char → Option (List Char)
  | 0, _ => none
  | fuel + 1, s =>
    let s := skipBlank s
    match newline? (skipComment s) with
    | some rest => skipLines? fuel rest
    | none => if s.head? = some '#' then none else some s

/-- The text after the rest of a line: blanks, perhaps a comment, and the line end. -/
def endOfLine? (s : List Char) : Option (List Char) :=
  match skipComment (skipBlank s) with
  | [] => some []
  | rest => newline? rest

mutual
/-- Reads a value of at most `depth` levels. -/
def value? : (fuel depth : Nat) → List Char → Option (Document × List Char)
  | 0, _, _ => none
  | fuel + 1, depth, s =>
    match s with
    | '[' :: rest =>
      if depth = 0 then none
      else do
        let (items, rest) ← items? fuel (depth - 1) rest
        some (.arr items true, rest)
    | '\x7b' :: rest =>
      if depth = 0 then none
      else
        match skipBlank rest with
        | '\x7d' :: rest => some (.obj [] true, rest)
        | _ => do
          let (entries, rest) ← entries? fuel (depth - 1) [] rest
          some (.obj (toEntries entries) true, rest)
    | _ => scalar? s

/-- Reads the items of an array up to its closing bracket. -/
def items? : (fuel depth : Nat) → List Char → Option (List Document × List Char)
  | 0, _, _ => none
  | fuel + 1, depth, s => do
    match ← skipLines? (s.length + 1) s with
    | ']' :: rest => some ([], rest)
    | s =>
      let (item, s) ← value? fuel depth s
      match ← skipLines? (s.length + 1) s with
      | ',' :: rest =>
        let (items, rest) ← items? fuel depth rest
        some (item :: items, rest)
      | ']' :: rest => some ([item], rest)
      | _ => none

/-- Reads the entries of a table on one line up to its closing brace. -/
def entries? : (fuel depth : Nat) → Entries → List Char → Option (Entries × List Char)
  | 0, _, _, _ => none
  | fuel + 1, depth, entries, s => do
    let ((through, key), s) ← key? s
    match s with
    | '=' :: s =>
      let (d, s) ← value? fuel depth (skipBlank s)
      let entries ← bindValue through key d .header entries
      match skipBlank s with
      | ',' :: rest => entries? fuel depth entries rest
      | '\x7d' :: rest => some (entries, rest)
      | _ => none
    | _ => none
end

/-- Reads the rest of a header after its opening brackets. -/
def header? (closing s : List Char) : Option ((List String × String) × List Char) := do
  let (key, s) ← key? s
  some (key, ← endOfLine? (← Text.after? closing s))

/-- Reads lines into the table at the root; `current` is the path of the last header. -/
def statements? :
    (fuel : Nat) → (current : List String) → Entries → List Char → Option Entries
  | 0, _, _, _ => none
  | fuel + 1, current, root, s =>
    match skipBlank s with
    | [] => some root
    | '[' :: '[' :: rest => do
      let ((through, key), rest) ← header? [']', ']'] rest
      let root ← changeAt false (openItem key) through .header root
      statements? fuel (through ++ [key]) root rest
    | '[' :: rest => do
      let ((through, key), rest) ← header? [']'] rest
      let root ← changeAt false (openTable key) through .header root
      statements? fuel (through ++ [key]) root rest
    | s =>
      match endOfLine? s with
      | some rest => statements? fuel current root rest
      | none => do
        let ((through, key), s) ← key? s
        match s with
        | '=' :: s =>
          let (d, s) ← value? (2 * s.length + 2) maxNesting (skipBlank s)
          let rest ← endOfLine? s
          let root ← changeAt false (bindValue through key d) current .header root
          statements? fuel current root rest
        | _ => none

/-- The document of a text. -/
def parse? (source : String) : Option Document :=
  let s := match source.toList with
    | '\ufeff' :: rest => rest
    | s => s
  (statements? (s.length + 2) [] [] s).map fun root => .obj (toEntries root) true

/-- How the document of a text is decoded. Every level of it takes a character of the text. -/
def rules (source : String) : Rules where
  depth := source.length + 1
  surplus := true
  isVoid
    | .arr [] _ => true
    | .obj [] _ => true
    | _ => false

end SeriesQuery.Toml
