import SeriesQuery.Text.Bytes

/-!
# Flaws of texts

A text that is no value of the data format has a first flaw: a kind and a place. While a text is
read, the place is known by how many bytes are behind it; `Flaw.locate` turns that into a line and a
column, the first line being 1 and a column the number of bytes read on its line.
-/

namespace SeriesQuery

/-- What keeps a text from being a value. -/
inductive FlawKind where
  | endInArray
  | endInObject
  | endInText
  | endInValue
  | noColon
  | noItemEnd
  | noEntryEnd
  | noWord
  | noValue
  | badEscape
  | badNumber
  /-- A number too large for a double. -/
  | tooLarge
  | control
  | keyNotText
  /-- The second half of a surrogate pair without the first, or a first half before another
  character. -/
  | loneSurrogate
  /-- The first half of a surrogate pair that no escape follows. -/
  | halfPair
  | trailingComma
  | trailing
  /-- Too many levels of arrays and objects. -/
  | tooDeep
  deriving DecidableEq

/-- The wording of the flaw. -/
def FlawKind.message : FlawKind → String
  | endInArray => "EOF while parsing a list"
  | endInObject => "EOF while parsing an object"
  | endInText => "EOF while parsing a string"
  | endInValue => "EOF while parsing a value"
  | noColon => "expected \x60:\x60"
  | noItemEnd => "expected \x60,\x60 or \x60]\x60"
  | noEntryEnd => "expected \x60,\x60 or \x60\x7d\x60"
  | noWord => "expected ident"
  | noValue => "expected value"
  | badEscape => "invalid escape"
  | badNumber => "invalid number"
  | tooLarge => "number out of range"
  | control => "control character (\\u0000-\\u001F) found while parsing a string"
  | keyNotText => "key must be a string"
  | loneSurrogate => "lone leading surrogate in hex escape"
  | halfPair => "unexpected end of hex escape"
  | trailingComma => "trailing comma"
  | trailing => "trailing characters"
  | tooDeep => "recursion limit exceeded"

/-- A flaw as a reader meets it. -/
structure Flaw where
  kind : FlawKind
  /-- The number of bytes of the text behind the place. -/
  left : Nat
  deriving DecidableEq

namespace Flaw

/-- A flaw at the end of the text. -/
def atEnd (kind : FlawKind) : Flaw := ⟨kind, 0⟩

/-- A flaw right before the rest of the text. -/
def before (kind : FlawKind) (rest : List Char) : Flaw := ⟨kind, Text.byteCount rest⟩

/-- A flaw at the first byte of the rest of the text. -/
def here (kind : FlawKind) (rest : List Char) : Flaw := ⟨kind, Text.byteCount rest - 1⟩

/-- The line and the column that are `count` bytes on from a line and a column. -/
def advance : (count line column : Nat) → List Char → Nat × Nat
  | _, line, column, [] => (line, column)
  | count, line, column, c :: rest =>
    if count < c.utf8Size then (line, column + count)
    else if c = '\n' then advance (count - 1) (line + 1) 0 rest
    else advance (count - c.utf8Size) line (column + c.utf8Size) rest

/-- The line and the column of the flaw in its text. -/
def locate (text : List Char) (f : Flaw) : Nat × Nat :=
  advance (Text.byteCount text - f.left) 1 0 text

end Flaw

/-- Why a text is no value, and where. -/
structure ReadError where
  kind : FlawKind
  line : Nat
  column : Nat
  deriving DecidableEq

namespace ReadError

/-- The error for a flaw of a text. -/
def ofFlaw (text : List Char) (f : Flaw) : ReadError :=
  ⟨f.kind, (f.locate text).1, (f.locate text).2⟩

/-- The wording of the error. -/
def message (e : ReadError) : String :=
  e.kind.message ++ " at line " ++ toString e.line ++ " column " ++ toString e.column

end ReadError

end SeriesQuery
