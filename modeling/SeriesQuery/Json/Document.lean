import SeriesQuery.Json.Reader

/-!
# Documents as read

Reading a text gives a `Document`: what stands there, with entries in their order and repeated keys
kept. Where the text stops being a document the tree says `broken`, so that whoever decodes it meets
a wrong shape and a wrong text in the order in which they are written. `Document.read` gives the
tree and the text after it, and `Document.toJson` the value.
-/

namespace SeriesQuery

/-- A document as it is written. -/
inductive Document where
  | null
  | bool (b : Bool)
  /-- A number; nothing if its value is too large. -/
  | num (n : Option Number)
  /-- A text; nothing if it has half of a surrogate pair. -/
  | str (s : Option String)
  /-- The items that were read, and whether the closing bracket was. -/
  | arr (items : List Document) (closed : Bool)
  /-- The entries that were read, and whether the closing brace was. -/
  | obj (entries : List (Option String × Document)) (closed : Bool)
  /-- The text is no document from here on. -/
  | broken

/-- Why a document does not decode. -/
inductive Fault where
  /-- The text is no document. -/
  | text
  /-- The document has another shape than asked for. -/
  | shape
  deriving DecidableEq

namespace Document

open Lexeme (skipSpace)

/-- A word at the start of a text. -/
def readWord (word : String) (d : Document) (s : List Char) : Document × List Char :=
  match Lexeme.readWord word.toList s with
  | .ok rest => (d, rest)
  | .error _ => (broken, [])

mutual
/-- Reads a document at the start of a text; the text after it is empty where the document broke. -/
def readValue : (fuel : Nat) → List Char → Document × List Char
  | 0, _ => (broken, [])
  | fuel + 1, s =>
    let s := skipSpace s
    match s with
    | [] => (broken, [])
    | 'n' :: _ => readWord "null" .null s
    | 't' :: _ => readWord "true" (.bool true) s
    | 'f' :: _ => readWord "false" (.bool false) s
    | '"' :: rest =>
      match Lexeme.text rest with
      | .ok (t, rest) => (.str t.toOption, rest)
      | .error _ => (broken, [])
    | '[' :: rest =>
      match skipSpace rest with
      | ']' :: after => (.arr [] true, after)
      | _ =>
        let (items, closed, after) := readItems fuel rest
        (.arr items closed, after)
    | '\x7b' :: rest =>
      match skipSpace rest with
      | '\x7d' :: after => (.obj [] true, after)
      | _ =>
        let (entries, closed, after) := readEntries fuel rest
        (.obj entries closed, after)
    | _ =>
      match Lexeme.number s with
      | .ok (n, rest) => (.num n.toOption, rest)
      | .error _ => (broken, [])

/-- Reads items up to the closing bracket. -/
def readItems : (fuel : Nat) → List Char → List Document × Bool × List Char
  | 0, _ => ([], false, [])
  | fuel + 1, s =>
    let (item, rest) := readValue fuel s
    match skipSpace rest with
    | ',' :: rest =>
      let (items, closed, after) := readItems fuel rest
      (item :: items, closed, after)
    | ']' :: after => ([item], true, after)
    | _ => ([item], false, [])

/-- Reads entries up to the closing brace. -/
def readEntries : (fuel : Nat) → List Char → List (Option String × Document) × Bool × List Char
  | 0, _ => ([], false, [])
  | fuel + 1, s =>
    match skipSpace s with
    | '"' :: rest =>
      match Lexeme.text rest with
      | .error _ => ([], false, [])
      | .ok (key, rest) =>
        match skipSpace rest with
        | ':' :: rest =>
          let (value, rest) := readValue fuel rest
          match skipSpace rest with
          | ',' :: rest =>
            let (entries, closed, after) := readEntries fuel rest
            ((key.toOption, value) :: entries, closed, after)
          | '\x7d' :: after => ([(key.toOption, value)], true, after)
          | _ => ([(key.toOption, value)], false, [])
        | _ => ([(key.toOption, broken)], false, [])
    | _ => ([], false, [])
end

/-- The document at the start of a text, and the text after it. -/
def read (s : String) : Document × List Char := readValue (s.utf8ByteSize + 2) s.toList

mutual
/-- The value of a document with at most `depth` levels. -/
def toJson (depth : Nat) : Document → Except Fault Json
  | null => .ok .null
  | bool b => .ok (.bool b)
  | num (some (.int z)) => .ok (.num (.int z))
  | num (some (.float x)) => .ok (if Binary64.isFinite x then .num (.float x) else .null)
  | str (some s) => .ok (.str s)
  | arr items closed =>
    if depth = 0 then .error .text
    else do
      let items ← toItems (depth - 1) items
      if closed then .ok (.arr items) else .error .text
  | obj entries closed =>
    if depth = 0 then .error .text
    else do
      let entries ← toEntries (depth - 1) entries
      if closed then .ok (.object entries) else .error .text
  | num none => .error .text
  | str none => .error .text
  | broken => .error .text

/-- The values of items. -/
def toItems (depth : Nat) : List Document → Except Fault (List Json)
  | [] => .ok []
  | d :: ds => do
    let item ← toJson depth d
    let items ← toItems depth ds
    .ok (item :: items)

/-- The values of entries. -/
def toEntries (depth : Nat) : List (Option String × Document) →
    Except Fault (List (String × Json))
  | [] => .ok []
  | (none, _) :: _ => .error .text
  | (some key, d) :: ds => do
    let value ← toJson depth d
    let entries ← toEntries depth ds
    .ok ((key, value) :: entries)
end

mutual
/-- The document that a value is written as. -/
def ofJson : Json → Document
  | .null => null
  | .bool b => bool b
  | .num n => num (some n)
  | .str s => str (some s)
  | .arr items => arr (ofItems items) true
  | .obj fields => obj (ofEntries fields) true

/-- The documents of items. -/
def ofItems : List Json → List Document
  | [] => []
  | a :: as => ofJson a :: ofItems as

/-- The documents of entries. -/
def ofEntries : List (String × Json) → List (Option String × Document)
  | [] => []
  | (k, a) :: as => (some k, ofJson a) :: ofEntries as
end

end Document

end SeriesQuery
