import SeriesQuery.Json
import SeriesQuery.Text.Case

/-!
# Expressions over a document

The trees of the expression language: constants, arrays, paths below a variable, calls, and unary
and binary operations. A `Level` says how tightly the parts of an expression bind, from disjunction,
which is loosest, to a primary expression.
-/

namespace SeriesQuery

/-- The functions that an expression can call. -/
inductive Function where
  | lower | upper | length | toNumber | floor | ceil | round | abs | dateTimestamp | concat
  | contains
  deriving DecidableEq

namespace Function

/-- The functions with their names. -/
def names : List (String × Function) :=
  [("LOWER", lower), ("UPPER", upper), ("LENGTH", length), ("TO_NUMBER", toNumber),
    ("FLOOR", floor), ("CEIL", ceil), ("ROUND", round), ("ABS", abs),
    ("DATE_TIMESTAMP", dateTimestamp), ("CONCAT", concat), ("CONTAINS", contains)]

/-- The name of a function. -/
def name : Function → String
  | lower => "LOWER"
  | upper => "UPPER"
  | length => "LENGTH"
  | toNumber => "TO_NUMBER"
  | floor => "FLOOR"
  | ceil => "CEIL"
  | round => "ROUND"
  | abs => "ABS"
  | dateTimestamp => "DATE_TIMESTAMP"
  | concat => "CONCAT"
  | contains => "CONTAINS"

/-- The function with a name, in any letter case. -/
def ofName? (s : String) : Option Function := names.lookup (Text.upper s)

end Function

/-- The binary operations. -/
inductive Operator where
  | or | and | eq | ne | lt | le | gt | ge | isIn | notIn | add | sub | mul | div | mod
  deriving DecidableEq

mutual
/-- An expression. -/
inductive Expr where
  /-- A constant. -/
  | literal (value : Json)
  /-- An array of the values of expressions. -/
  | array (items : List Expr)
  /-- A variable and the steps taken from its value. -/
  | path (root : String) (steps : List Step)
  /-- A function applied to arguments. -/
  | call (function : Function) (args : List Expr)
  /-- The opposite truth value. -/
  | not (operand : Expr)
  /-- The opposite number. -/
  | neg (operand : Expr)
  /-- An operation on two operands. -/
  | binary (op : Operator) (left right : Expr)

/-- A step of a path. -/
inductive Step where
  /-- An attribute or position that is written out. -/
  | key (name : String)
  /-- An attribute or position that is computed. -/
  | index (e : Expr)
end

/-- How tightly an expression binds, loosest first. -/
inductive Level where
  | disjunction | conjunction | negation | comparison | sum | product | minus | primary
  deriving DecidableEq

namespace Level

/-- The number of tighter levels. -/
def rank : Level → Nat
  | disjunction => 7
  | conjunction => 6
  | negation => 5
  | comparison => 4
  | sum => 3
  | product => 2
  | minus => 1
  | primary => 0

end Level

/-- The level of the operations of an operator. -/
def Operator.level : Operator → Level
  | or => .disjunction
  | and => .conjunction
  | eq | ne | lt | le | gt | ge | isIn | notIn => .comparison
  | add | sub => .sum
  | mul | div | mod => .product

end SeriesQuery
