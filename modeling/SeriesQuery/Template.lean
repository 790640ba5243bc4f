import SeriesQuery.Json
import SeriesQuery.Text.Blank
import SeriesQuery.Text.Bytes

/-!
# Templates

A template is text with slots: two braces, a dotted path, two braces, and any spaces, tabs and line
ends around the path. `Template.parse` reads one and reports the first pair of braces that opens no
slot; `Template.render` puts the text of the value at each path into its slot, once and as it is.
A path that leads nowhere leaves its slot empty.
-/

namespace SeriesQuery

namespace Json

mutual
/-- The text of a value inside a template: nothing for null, a text as it is, items between commas,
and an object in its compact form. -/
def display : Json → String
  | null => ""
  | bool b => if b then "true" else "false"
  | num n => n.text
  | str s => s
  | arr items => displayItems items
  | obj fields => text (obj fields)

/-- The texts of items between commas. -/
def displayItems : List Json → String
  | [] => ""
  | [a] => display a
  | a :: as => display a ++ "," ++ displayItems as
end

end Json

/-- A dotted path: a root and the keys or indices below it. -/
structure Path where
  /-- Name of the binding. -/
  root : String
  /-- What is taken of its value, step by step. -/
  steps : List String
  deriving DecidableEq

namespace Path

/-- The array index that a step writes, if it writes one of 64 bits. -/
def index? (step : String) : Option Nat := Text.parseBelow? UInt64.size step.toList

/-- The value below a value, one step at a time; nothing where a step leads nowhere. -/
def descend? : Json → List String → Option Json
  | value, [] => some value
  | .obj fields, step :: steps => do descend? (← Dict.get? fields step) steps
  | .arr items, step :: steps => do descend? (← items[← index? step]?) steps
  | _, _ :: _ => none

/-- The value that the path leads to. -/
def lookup? (path : Path) (bindings : Fields) : Option Json := do
  descend? (← Dict.get? bindings path.root) path.steps

/-- Whether a character may stand in a path. -/
def isNameChar (c : Char) : Bool := Text.isAsciiAlphanumeric c || c == '_'

/-- Whether a character may begin a path. -/
def isNameStart (c : Char) : Bool := Text.isAsciiLetter c || c == '_'

/-- Steps, each a point and name characters, as far as they go. -/
def readSteps : (fuel : Nat) → List Char → List String × List Char
  | fuel + 1, '.' :: rest =>
    match rest.span isNameChar with
    | ([], _) => ([], '.' :: rest)
    | (name, after) =>
      let (steps, left) := readSteps fuel after
      (String.ofList name :: steps, left)
  | _, s => ([], s)

/-- Reads a path at the start of a text. -/
def read? (s : List Char) : Option (Path × List Char) :=
  match s with
  | c :: rest =>
    if isNameStart c then
      let (name, after) := rest.span isNameChar
      let (steps, left) := readSteps after.length after
      some (⟨String.ofList (c :: name), steps⟩, left)
    else none
  | [] => none

end Path

/-- A piece of a template. -/
inductive Piece where
  /-- Characters that stand for themselves. -/
  | literal (s : List Char)
  /-- A slot for the value at a path. -/
  | slot (path : Path)
  deriving DecidableEq

/-- What is wrong with a template, and the byte where it is. -/
inductive TemplateError where
  /-- Two opening braces without closing ones. -/
  | unclosed (source : String) (offset : Nat)
  /-- Only blanks between the braces. -/
  | emptySlot (source : String) (offset : Nat)
  /-- Something between the braces that is no path. -/
  | notAPath (source : String) (offset : Nat) (slot : String)
  deriving DecidableEq

/-- The wording of the error. -/
def TemplateError.message : TemplateError → String
  | unclosed source offset =>
    "unclosed placeholder at offset " ++ toString offset ++ " in template '" ++ source ++ "'"
  | emptySlot source offset =>
    "empty placeholder at offset " ++ toString offset ++ " in template '" ++ source ++ "'"
  | notAPath source offset slot =>
    "invalid placeholder '" ++ slot ++ "' at offset " ++ toString offset ++ " in template '" ++
      source ++ "'"

/-- A template and the text that it was read from. -/
structure Template where
  /-- The text. -/
  source : String
  /-- Its pieces, in order. -/
  pieces : List Piece
  deriving DecidableEq

namespace Template

/-- Two opening braces. -/
def opening : List Char := ['\x7b', '\x7b']

/-- Two closing braces. -/
def closing : List Char := ['\x7d', '\x7d']

/-- Whether a character may stand between the braces and the path. -/
def isGap (c : Char) : Bool := c == ' ' || c == '\t' || c == '\r' || c == '\n'

/-- Reads a slot at the start of a text. -/
def readSlot? (s : List Char) : Option (Path × List Char) := do
  let s ← Text.after? opening s
  let (path, s) ← Path.read? (s.dropWhile isGap)
  let s ← Text.after? closing (s.dropWhile isGap)
  some (path, s)

/-- The text before the first occurrence of a word, and the text from it on. -/
def splitBefore (word : List Char) : List Char → List Char × List Char
  | [] => ([], [])
  | c :: rest =>
    if (Text.after? word (c :: rest)).isSome then ([], c :: rest)
    else
      let (before, after) := splitBefore word rest
      (c :: before, after)

theorem splitBefore_append (word s : List Char) :
    (splitBefore word s).1 ++ (splitBefore word s).2 = s := by
  induction s with
  | nil => rfl
  | cons c rest ih =>
    unfold splitBefore
    split
    · rfl
    · simp [ih]

/-- The pieces of a text up to the first opening braces that open no slot, and the text from there
on. -/
def readPieces (s : List Char) : List Piece × List Char :=
  match s with
  | [] => ([], [])
  | c :: rest =>
    match readSlot? (c :: rest) with
    | some (path, after) =>
      if h : after.length < (c :: rest).length then
        have : after.length < rest.length + 1 := h
        let (pieces, left) := readPieces after
        (.slot path :: pieces, left)
      else ([], c :: rest)
    | none =>
      match h : splitBefore opening (c :: rest) with
      | ([], _) => ([], c :: rest)
      | (d :: more, after) =>
        have : after.length < rest.length + 1 := by
          have := congrArg List.length (splitBefore_append opening (c :: rest))
          simp [h] at this
          omega
        let (pieces, left) := readPieces after
        (.literal (d :: more) :: pieces, left)
termination_by s.length

/-- What is wrong with the braces that `left` starts with, at a byte of a template. -/
def errorAt (source : String) (offset : Nat) (left : List Char) : TemplateError :=
  let inner := left.drop 2
  match splitBefore closing inner with
  | (_, []) => .unclosed source offset
  | (slot, _) =>
    match Text.trimChars slot with
    | [] => .emptySlot source offset
    | cs => .notAPath source offset (String.ofList cs)

/-- Reads a template. -/
def parse (source : String) : Except TemplateError Template :=
  let s := source.toList
  match readPieces s with
  | (pieces, []) => .ok { source, pieces }
  | (_, left) => .error (errorAt source (Text.byteCount s - Text.byteCount left) left)

/-- Whether the template has no slots. -/
def isLiteral (t : Template) : Bool :=
  t.pieces.all fun
    | .literal _ => true
    | .slot _ => false

/-- The text of a piece. -/
def renderPiece (bindings : Fields) : Piece → String
  | .literal s => String.ofList s
  | .slot path => ((path.lookup? bindings).map Json.display).getD ""

/-- The template with its slots filled. -/
def render (t : Template) (bindings : Fields) : String :=
  String.join (t.pieces.map (renderPiece bindings))

/-- Reads and renders a template. -/
def fill (source : String) (bindings : Fields) : Except TemplateError String :=
  (parse source).map (·.render bindings)

end Template

end SeriesQuery
