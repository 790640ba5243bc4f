import SeriesQuery.Expr.Syntax
import SeriesQuery.Json.Order
import SeriesQuery.Number.Decimal
import SeriesQuery.Text.Blank
import SeriesQuery.Time.Stamp

/-!
# Evaluation of expressions

`Expr.eval` gives every expression a value: what is missing or of the wrong kind is null, and never
an error. Numbers are compared by their values and computed with as doubles, and a disjunction or a
conjunction is one of its operands.
-/

namespace SeriesQuery

namespace Json

/-- Whether a value counts as true: null, false, zero and the empty text do not. -/
def truthy : Json → Bool
  | null => false
  | bool b => b
  | num n => n.toFloat != 0.0
  | str s => s != ""
  | arr _ => true
  | obj _ => true

/-- The double that a value stands for, and zero if it stands for none. -/
def toFloat : Json → Float
  | null => 0.0
  | bool b => if b then 1.0 else 0.0
  | num n => n.toFloat
  | str s => (Decimal.parse? (Text.trimChars s.toList)).getD 0.0
  | arr [item] => toFloat item
  | arr _ => 0.0
  | obj _ => 0.0

/-- The text that a value stands for. -/
def toText : Json → String
  | null => ""
  | str s => s
  | other => other.text

/-- Equality of the expression language: numbers by value, everything else plainly. -/
def equal : Json → Json → Bool
  | num a, num b => a.toFloat == b.toFloat
  | a, b => same a b

/-- The item of an array at a position; a negative one counts from the end. -/
def itemAt (items : List Json) (i : Int) : Json :=
  let i := if i < 0 then items.length + i else i
  if i < 0 then null else (items[i.toNat]?).getD null

/-- The value of an attribute or a position of a value; null if there is none. -/
def access : Json → Json → Json
  | obj fields, str key => (Dict.get? fields key).getD null
  | arr items, num n =>
    match n.toInt64? with
    | some i => itemAt items i.toInt
    | none => null
  | arr items, str key => ((Text.parseBelow? UInt64.size key.toList).bind (items[·]?)).getD null
  | _, _ => null

end Json

namespace Text

/-- Whether a word occurs in a text. -/
def occursIn (word : List Char) : List Char → Bool
  | [] => word.isEmpty
  | c :: rest => (after? word (c :: rest)).isSome || occursIn word rest

end Text

/-- The value of an operation whose operands are both evaluated. -/
def Operator.apply (op : Operator) (left right : Json) : Json :=
  match op with
  | or => if left.truthy then left else right
  | and => if left.truthy then right else left
  | eq => .bool (left.equal right)
  | ne => .bool (!left.equal right)
  | lt => .bool (left.order right == .lt)
  | le => .bool (left.order right != .gt)
  | gt => .bool (left.order right == .gt)
  | ge => .bool (left.order right != .lt)
  | isIn => .bool (isItem left right)
  | notIn => .bool (!isItem left right)
  | add => .ofFloat (left.toFloat + right.toFloat)
  | sub => .ofFloat (left.toFloat - right.toFloat)
  | mul => .ofFloat (left.toFloat * right.toFloat)
  | div => divided (fun x y => x / y)
  | mod => divided Binary64.remainder
where
  /-- Whether a value equals an item of an array. -/
  isItem (left right : Json) : Bool :=
    match right with
    | .arr items => items.any left.equal
    | _ => false
  /-- A quotient or remainder; null for a zero divisor. -/
  divided (f : Float → Float → Float) : Json :=
    if right.toFloat == 0.0 then .null else .ofFloat (f left.toFloat right.toFloat)

/-- The value of a call; a missing argument is null. -/
def Function.apply (f : Function) (args : List Json) : Json :=
  let first := (args.head?).getD Json.null
  match f with
  | lower => .str (Text.lower first.toText)
  | upper => .str (Text.upper first.toText)
  | length =>
    .nat <|
      match first with
      | .null => 0
      | .bool b => b.toNat
      | .num n => n.text.length
      | .str s => s.length
      | .arr items => items.length
      | .obj fields => fields.length
  | toNumber => .ofFloat first.toFloat
  | floor => .ofFloat (Binary64.floor first.toFloat)
  | ceil => .ofFloat (Binary64.ceil first.toFloat)
  | round => .ofFloat (Binary64.round first.toFloat)
  | abs => .ofFloat first.toFloat.abs
  | dateTimestamp =>
    match first with
    | .num n => .num n
    | .str s =>
      match Stamp.instant s with
      | .ok ms => .int ms
      | .error _ => .null
    | _ => .null
  | concat => .str (String.join (args.map Json.toText))
  | contains =>
    .bool (Text.occursIn ((args[1]?).getD Json.null).toText.toList first.toText.toList)

namespace Expr

mutual
/-- The value of an expression under some variables. -/
def eval (scope : Fields) : Expr → Json
  | literal v => v
  | array items => .arr (evalItems scope items)
  | path root steps => evalSteps scope ((Dict.get? scope root).getD .null) steps
  | call f args => f.apply (evalItems scope args)
  | not e => .bool (!(eval scope e).truthy)
  | neg e => .ofFloat (-(eval scope e).toFloat)
  | binary op left right => op.apply (eval scope left) (eval scope right)

/-- The values of expressions. -/
def evalItems (scope : Fields) : List Expr → List Json
  | [] => []
  | e :: es => eval scope e :: evalItems scope es

/-- The value that some steps lead to from a value. -/
def evalSteps (scope : Fields) (value : Json) : List Step → Json
  | [] => value
  | .key name :: steps => evalSteps scope (value.access (.str name)) steps
  | .index e :: steps => evalSteps scope (value.access (eval scope e)) steps
end

end Expr

end SeriesQuery
