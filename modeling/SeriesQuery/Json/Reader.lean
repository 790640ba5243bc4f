import SeriesQuery.Json
import SeriesQuery.Json.Lexeme

/-!
# Reading values

`Json.ofText` reads a text that holds one value and nothing but blanks around it. It allows
`Json.maxDepth` levels of arrays and objects, and reports the first flaw with its line and column.
-/

namespace SeriesQuery.Json

open Lexeme (skipSpace)

/-- Levels of arrays and objects that a value may have. -/
def maxDepth : Nat := 127

mutual
/-- Reads a value of at most `depth` levels at the start of a text. -/
def readValue : (fuel depth : Nat) → List Char → Except Flaw (Json × List Char)
  | 0, _, s => .error (.here .tooDeep s)
  | fuel + 1, depth, s =>
    match skipSpace s with
    | [] => .error (.atEnd .endInValue)
    | 'n' :: rest => do return (null, ← Lexeme.readWord "ull".toList rest)
    | 't' :: rest => do return (bool true, ← Lexeme.readWord "rue".toList rest)
    | 'f' :: rest => do return (bool false, ← Lexeme.readWord "alse".toList rest)
    | '"' :: rest => do
      let (t, rest) ← Lexeme.text rest
      return (str (← t), rest)
    | '[' :: rest =>
      if depth = 0 then .error (.here .tooDeep ('[' :: rest))
      else
        match skipSpace rest with
        | [] => .error (.atEnd .endInArray)
        | ']' :: after => .ok (arr [], after)
        | c :: more => do
          let (items, after) ← readItems fuel (depth - 1) (c :: more)
          return (arr items, after)
    | '\x7b' :: rest =>
      if depth = 0 then .error (.here .tooDeep ('\x7b' :: rest))
      else
        match skipSpace rest with
        | [] => .error (.atEnd .endInObject)
        | '\x7d' :: after => .ok (obj [], after)
        | c :: more => do
          let (entries, after) ← readEntries fuel (depth - 1) (c :: more)
          return (object entries, after)
    | c :: rest => do
      let (n, rest) ← Lexeme.number (c :: rest)
      return (num (← n), rest)

/-- Reads items up to the closing bracket. -/
def readItems : (fuel depth : Nat) → List Char → Except Flaw (List Json × List Char)
  | 0, _, s => .error (.here .tooDeep s)
  | fuel + 1, depth, s => do
    let (item, rest) ← readValue fuel depth s
    match skipSpace rest with
    | [] => .error (.atEnd .endInArray)
    | ']' :: after => .ok ([item], after)
    | ',' :: rest =>
      match skipSpace rest with
      | ']' :: after => .error (.here .trailingComma (']' :: after))
      | more => do
        let (items, after) ← readItems fuel depth more
        return (item :: items, after)
    | rest => .error (.here .noItemEnd rest)

/-- Reads entries up to the closing brace. -/
def readEntries : (fuel depth : Nat) → List Char →
    Except Flaw (List (String × Json) × List Char)
  | 0, _, s => .error (.here .tooDeep s)
  | fuel + 1, depth, s =>
    match s with
    | [] => .error (.atEnd .endInValue)
    | '"' :: rest => do
      let (key, rest) ← Lexeme.text rest
      let key ← key
      match skipSpace rest with
      | [] => .error (.atEnd .endInObject)
      | ':' :: rest => do
        let (value, rest) ← readValue fuel depth rest
        match skipSpace rest with
        | [] => .error (.atEnd .endInObject)
        | '\x7d' :: after => .ok ([(key, value)], after)
        | ',' :: rest =>
          match skipSpace rest with
          | '\x7d' :: after => .error (.here .trailingComma ('\x7d' :: after))
          | more => do
            let (entries, after) ← readEntries fuel depth more
            return ((key, value) :: entries, after)
        | rest => .error (.here .noEntryEnd rest)
      | rest => .error (.here .noColon rest)
    | rest => .error (.here .keyNotText rest)
end

/-- Reads a value and the blanks after it, up to the end of a text. -/
def readWhole (s : List Char) : Except Flaw Json := do
  let (value, rest) ← readValue (2 * s.length + 2) maxDepth s
  match skipSpace rest with
  | [] => return value
  | rest => throw (.here .trailing rest)

/-- The value that a text holds, or why it holds none and where. -/
def ofText (s : String) : Except ReadError Json :=
  (readWhole s.toList).mapError (ReadError.ofFlaw s.toList)

end SeriesQuery.Json
