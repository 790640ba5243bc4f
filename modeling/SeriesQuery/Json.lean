import SeriesQuery.Dict
import SeriesQuery.Number

/-!
# Data values

`Json` is the value type of documents, bindings, bind parameters and answers. Objects are
dictionaries in key order. `Json.same` is plain equality, which keeps `1` and `1.0` apart at every
depth; `Json.text` is the compact text.
-/

namespace SeriesQuery

/-- A data value. -/
inductive Json where
  | null
  | bool (b : Bool)
  | num (n : Number)
  | str (s : String)
  | arr (items : List Json)
  | obj (fields : List (String × Json))

instance : Inhabited Json := ⟨.null⟩

/-- The entries of an object, and the bindings that a template is rendered against. -/
abbrev Fields := Dict Json

namespace Json

/-- An integer value. -/
def int (z : Int) : Json := num (.int z)

/-- A natural number. -/
def nat (n : Nat) : Json := num (.int n)

/-- A signed 64-bit integer. -/
def int64 (n : Int64) : Json := num (.int n.toInt)

/-- A text or null. -/
def strOrNull (s : Option String) : Json := (s.map str).getD null

/-- An object from entries in any order; of several for one key the last counts. -/
def object (entries : List (String × Json)) : Json := obj (Dict.ofList entries)

/-- A computed double: a number as `Number.ofFloat?` has it, or null if there is none. -/
def ofFloat (x : Float) : Json :=
  match Number.ofFloat? x with
  | some n => num n
  | none => null

mutual
/-- Plain equality. -/
def same : Json → Json → Bool
  | null, null => true
  | bool a, bool b => a == b
  | num a, num b => a.same b
  | str a, str b => a == b
  | arr a, arr b => sameItems a b
  | obj a, obj b => sameFields a b
  | _, _ => false

/-- Plain equality item by item. -/
def sameItems : List Json → List Json → Bool
  | [], [] => true
  | a :: as, b :: bs => same a b && sameItems as bs
  | _, _ => false

/-- Plain equality entry by entry. -/
def sameFields : List (String × Json) → List (String × Json) → Bool
  | [], [] => true
  | (j, a) :: as, (k, b) :: bs => j == k && same a b && sameFields as bs
  | _, _ => false
end

/-- The text of a value that is a text. -/
def asStr? : Json → Option String
  | str s => some s
  | _ => none

/-- One character of a text between quotation marks. Controls below space are escaped, with a short
form where there is one, and everything else is written as it is. -/
def escapeChar (c : Char) : List Char :=
  if c = '"' then ['\\', '"']
  else if c = '\\' then ['\\', '\\']
  else if c = '\n' then ['\\', 'n']
  else if c = '\r' then ['\\', 'r']
  else if c = '\t' then ['\\', 't']
  else if c.toNat = 8 then ['\\', 'b']
  else if c.toNat = 12 then ['\\', 'f']
  else if c.toNat < 32 then
    ['\\', 'u', '0', '0', Nat.digitChar (c.toNat / 16), Nat.digitChar (c.toNat % 16)]
  else [c]

/-- A text between quotation marks. -/
def quoted (s : String) : String :=
  String.ofList ('"' :: (s.toList.flatMap escapeChar ++ ['"']))

mutual
/-- The compact text of a value. -/
def text : Json → String
  | null => "null"
  | bool b => if b then "true" else "false"
  | num n => n.text
  | str s => quoted s
  | arr items => "[" ++ itemsText items ++ "]"
  | obj fields => "\x7b" ++ fieldsText fields ++ "\x7d"

/-- The compact texts of items between commas. -/
def itemsText : List Json → String
  | [] => ""
  | [a] => text a
  | a :: as => text a ++ "," ++ itemsText as

/-- The compact texts of entries between commas. -/
def fieldsText : List (String × Json) → String
  | [] => ""
  | [(k, a)] => quoted k ++ ":" ++ text a
  | (k, a) :: as => quoted k ++ ":" ++ text a ++ "," ++ fieldsText as
end

/-- A line break and `depth` steps of two blanks. -/
def lineBreak (depth : Nat) : String := "\n" ++ String.ofList (List.replicate (2 * depth) ' ')

mutual
/-- The text of a value over several lines, one item or entry a line, two blanks a level. -/
def pretty (depth : Nat) : Json → String
  | arr (a :: as) =>
    "[" ++ lineBreak (depth + 1) ++ prettyItems (depth + 1) (a :: as) ++ lineBreak depth ++ "]"
  | obj (f :: fs) =>
    "\x7b" ++ lineBreak (depth + 1) ++ prettyFields (depth + 1) (f :: fs) ++ lineBreak depth ++
      "\x7d"
  | other => text other

/-- Items on lines of their own. -/
def prettyItems (depth : Nat) : List Json → String
  | [] => ""
  | [a] => pretty depth a
  | a :: as => pretty depth a ++ "," ++ lineBreak depth ++ prettyItems depth as

/-- Entries on lines of their own. -/
def prettyFields (depth : Nat) : List (String × Json) → String
  | [] => ""
  | [(k, a)] => quoted k ++ ": " ++ pretty depth a
  | (k, a) :: as =>
    quoted k ++ ": " ++ pretty depth a ++ "," ++ lineBreak depth ++ prettyFields depth as
end

end Json

end SeriesQuery
