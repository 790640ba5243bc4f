import SeriesQuery.Json.Document

/-!
# Decoding documents

A decoder takes a document to a value of a type, or says whether the text or its shape is at fault;
of several faults the first one in the text counts. What is allowed in the language of the document
is said by `Rules`.

`Decode.record` reads records: objects, whose further entries have to be documents and are dropped,
or arrays of the first fields in order. A missing field may have a default, or be optional, which in
an array it is not.
-/

namespace SeriesQuery

/-- What is allowed where documents of some language are decoded. -/
structure Rules where
  /-- Levels of arrays and objects that are still allowed. -/
  depth : Nat
  /-- Whether an array that is read as a record may have more items than the record has fields. -/
  surplus : Bool
  /-- Whether a document under the name of a thing says nothing more about the thing. -/
  isVoid : Document → Bool

/-- How documents are decoded by some rules. -/
abbrev Decoder (α : Type) := Rules → Document → Except Fault α

namespace Rules

/-- The rules within an array or an object; nothing if there may be none. -/
def within? (r : Rules) : Option Rules :=
  match r.depth with
  | 0 => none
  | depth + 1 => some { r with depth }

/-- The rules of JSON. -/
def json : Rules where
  depth := Json.maxDepth
  surplus := false
  isVoid
    | .null => true
    | _ => false

end Rules

namespace Document

mutual
/-- Whether the document is complete. -/
def isWhole : Document → Bool
  | arr items closed => areWhole items && closed
  | obj entries closed => entriesAreWhole entries && closed
  | broken => false
  | _ => true

/-- Whether items are complete. -/
def areWhole : List Document → Bool
  | [] => true
  | d :: ds => isWhole d && areWhole ds

/-- Whether the values of entries are complete. -/
def entriesAreWhole : List (Option String × Document) → Bool
  | [] => true
  | (_, d) :: ds => isWhole d && entriesAreWhole ds
end

end Document

namespace Decode

variable {α β : Type}

/-- The fault of a document that has another kind than asked for; an array or an object is not
looked into. -/
def mismatch : Document → Fault
  | .num none => .text
  | .str none => .text
  | .broken => .text
  | _ => .shape

/-- Decodes any value. -/
def value : Decoder Json := fun r d => d.toJson r.depth

/-- Decodes a text. -/
def text : Decoder String
  | _, .str (some s) => .ok s
  | _, d => .error (mismatch d)

/-- Decodes a truth value. -/
def bool : Decoder Bool
  | _, .bool b => .ok b
  | _, d => .error (mismatch d)

/-- Decodes an integer of a range. -/
def intWithin (low high : Int) : Decoder Int
  | _, .num (some (.int z)) => if low ≤ z ∧ z ≤ high then .ok z else .error .shape
  | _, d => .error (mismatch d)

/-- Decodes a signed 64-bit integer. -/
def int64 : Decoder Int64 := fun r d =>
  (intWithin Int64.minValue.toInt Int64.maxValue.toInt r d).map Int64.ofInt

/-- Decodes an unsigned integer below a limit. -/
def natBelow (limit : Nat) : Decoder Nat := fun r d =>
  (intWithin 0 (limit - 1) r d).map Int.toNat

/-- Decodes a value that may be null. -/
def orNull (decode : Decoder α) : Decoder (Option α)
  | _, .null => .ok none
  | r, d => (decode r d).map some

/-- Decodes an array of values of one kind. -/
def list (decode : Decoder α) : Decoder (List α)
  | r, .arr items closed =>
    match r.within? with
    | none => .error .text
    | some r => do
      let values ← items.mapM (decode r)
      if closed then .ok values else .error .text
  | _, d => .error (mismatch d)

/-- Decodes an object whose entries are of one kind; of several for one key the last counts. -/
def dict (decode : Decoder α) : Decoder (Dict α)
  | r, .obj entries closed =>
    match r.within? with
    | none => .error .text
    | some r => do
      let values ← entries.mapM fun (key, d) =>
        match key with
        | some k => (decode r d).map (k, ·)
        | none => .error .text
      if closed then .ok (Dict.ofList values) else .error .text
  | _, d => .error (mismatch d)

/-- Decodes the name of one of several things, or an object with the name as its only key and
nothing more about the thing under it. -/
def variant (ofName? : String → Option α) : Decoder α
  | _, .str (some s) =>
    match ofName? s with
    | some a => .ok a
    | none => .error .shape
  | r, .obj ((some s, d) :: rest) closed =>
    match r.within?, ofName? s with
    | none, _ => .error .text
    | _, none => .error .shape
    | _, some a =>
      if !r.isVoid d then .error (mismatch d)
      else if rest.isEmpty && closed then .ok a
      else .error .text
  | _, _ => .error .text

/-- What a missing field means. -/
inductive Presence where
  /-- The record is not one. -/
  | required
  /-- Nothing in an object; the record is not one in an array. -/
  | optional
  /-- The default. -/
  | defaulted
  deriving DecidableEq

/-- Whether a field may be missing. -/
def Presence.allows (p : Presence) (positional : Bool) : Bool :=
  match p with
  | required => false
  | optional => !positional
  | defaulted => true

/-- A field of a record: its name, and how it is put into the record. -/
structure Field (α : Type) where
  name : String
  presence : Presence
  put : Rules → Document → α → Except Fault α

/-- A field that is decoded and put into the record. -/
def field (presence : Presence) (name : String) (decode : Decoder β) (put : α → β → α) : Field α :=
  ⟨name, presence, fun r d a => (decode r d).map (put a)⟩

/-- Puts the entries of an object into a record; gives the names of the fields too. -/
def putEntries (r : Rules) (fields : List (Field α)) (given : List String) (a : α) :
    List (Option String × Document) → Except Fault (α × List String)
  | [] => .ok (a, given)
  | (none, _) :: _ => .error .text
  | (some key, d) :: rest =>
    match fields.find? fun f => f.name == key with
    | none => if d.isWhole then putEntries r fields given a rest else .error .text
    | some f =>
      if key ∈ given then .error .shape
      else do
        let a ← f.put r d a
        putEntries r fields (key :: given) a rest

/-- Puts the items of an array into a record, in the order of its fields. -/
def putItems (r : Rules) (closed : Bool) : List (Field α) → List Document → α → Except Fault α
  | [], ds, a => if closed && (ds.isEmpty || r.surplus) then .ok a else .error .text
  | f :: fields, [], a =>
    if !closed then .error .text
    else if f.presence.allows true then putItems r closed fields [] a
    else .error .shape
  | f :: fields, d :: ds, a => do
    let a ← f.put r d a
    putItems r closed fields ds a

/-- Decodes a record. -/
def record (start : α) (fields : List (Field α)) : Decoder α
  | r, .obj entries closed =>
    match r.within? with
    | none => .error .text
    | some r => do
      let (a, given) ← putEntries r fields [] start entries
      if !closed then .error .text
      else if fields.all fun f => given.contains f.name || f.presence.allows false then .ok a
      else .error .shape
  | r, .arr items closed =>
    match r.within? with
    | none => .error .text
    | some r => putItems r closed fields items start
  | _, d => .error (mismatch d)

end Decode

end SeriesQuery
