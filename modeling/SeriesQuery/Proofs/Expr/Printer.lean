import SeriesQuery.Expr.Parser

/-!
# Printing expressions

`Expr.text` writes a tree with as few parentheses as the levels of its operators need: an operand
stands in parentheses only where its level is looser than the place allows. One space surrounds the
operators between two operands and follows a negation, and items stand between commas.
`Expr.Writable` says which trees have a text at all: constants other than texts and whole numbers
are written as arrays or operations, and a variable is no reserved word.
-/

namespace SeriesQuery

/-- The next tighter level; nothing binds tighter than a primary expression. -/
def Level.tighter : Level → Level
  | disjunction => conjunction
  | conjunction => negation
  | negation => comparison
  | comparison => sum
  | sum => product
  | product => minus
  | minus => primary
  | primary => primary

namespace Operator

/-- The word or the sign that stands for an operator. -/
def sign : Operator → List Char
  | or => ['O', 'R']
  | and => ['A', 'N', 'D']
  | eq => ['=', '=']
  | ne => ['!', '=']
  | lt => ['<']
  | le => ['<', '=']
  | gt => ['>']
  | ge => ['>', '=']
  | isIn => ['I', 'N']
  | notIn => ['N', 'O', 'T', ' ', 'I', 'N']
  | add => ['+']
  | sub => ['-']
  | mul => ['*']
  | div => ['/']
  | mod => ['%']

/-- The level of a left operand: chains of operators grow to the left, and comparisons do not
chain. -/
def leftLevel (op : Operator) : Level :=
  match op.level with
  | .comparison => .sum
  | level => level

/-- The level of a right operand. -/
def rightLevel (op : Operator) : Level := op.level.tighter

end Operator

namespace Expr

/-- The level of an expression that stands without parentheses. -/
def level : Expr → Level
  | not _ => .negation
  | neg _ => .minus
  | binary op _ _ => op.level
  | _ => .primary

/-- A text of an expression, in parentheses if the place asks for a tighter one. -/
def bracketed (level : Level) (e : Expr) (text : List Char) : List Char :=
  if e.level.rank ≤ level.rank then text else '(' :: (text ++ [')'])

/-- The text of a constant: a text stands in double quotation marks, where these and backslashes
are escaped. -/
def literalText : Json → List Char
  | .str s =>
    '"' :: (s.toList.flatMap (fun c => if c = '"' ∨ c = '\\' then ['\\', c] else [c]) ++ ['"'])
  | v => v.text.toList

mutual
/-- The text of an expression without parentheses around it. -/
def text : Expr → List Char
  | literal v => literalText v
  | array items => '[' :: (itemsText items ++ [']'])
  | path root steps => root.toList ++ stepsText steps
  | call f args => f.name.toList ++ '(' :: (itemsText args ++ [')'])
  | not e => 'N' :: 'O' :: 'T' :: ' ' :: bracketed .negation e (text e)
  | neg e => '-' :: bracketed .minus e (text e)
  | binary op left right =>
    bracketed op.leftLevel left (text left) ++
      ' ' :: (op.sign ++ ' ' :: bracketed op.rightLevel right (text right))

/-- The texts of expressions between commas. -/
def itemsText : List Expr → List Char
  | [] => []
  | e :: es => text e ++ moreItemsText es

/-- The texts of further expressions, each after a comma. -/
def moreItemsText : List Expr → List Char
  | [] => []
  | e :: es => ',' :: ' ' :: (text e ++ moreItemsText es)

/-- The texts of the steps of a path. -/
def stepsText : List Step → List Char
  | [] => []
  | .key name :: steps => '.' :: (name.toList ++ stepsText steps)
  | .index e :: steps => '[' :: (text e ++ ']' :: stepsText steps)
end

/-- The text of an expression at a place that asks for a level. -/
def textAt (level : Level) (e : Expr) : List Char := bracketed level e e.text

/-- The text of an expression. -/
def print (e : Expr) : String := String.ofList e.text

/-- The words that are no variables, whatever their letter case. -/
def reservedWords : List String := ["AND", "OR", "NOT", "IN", "TRUE", "FALSE", "NULL"]

/-- Whether a text is a word that may name a variable. -/
def IsVariable (root : String) : Prop :=
  Token.word? root.toList = some (root.toList, []) ∧
    ∀ word ∈ reservedWords, Token.isKeyword word root.toList = false

/-- Whether a text may be the name of a step after a point. -/
def IsStepName (name : String) : Prop :=
  name.toList ≠ [] ∧ name.toList.all Token.isWordChar = true

/-- Whether a value has a text as a constant. -/
def WritableLiteral : Json → Prop
  | .null | .bool _ | .str _ => True
  | .num (.int z) => 0 ≤ z ∧ z ≤ Int64.maxValue.toInt
  | _ => False

mutual
/-- Whether an expression has a text. -/
def Writable : Expr → Prop
  | literal v => WritableLiteral v
  | array items => WritableItems items
  | path root steps => IsVariable root ∧ WritableSteps steps
  | call _ args => WritableItems args
  | not e => Writable e
  | neg e => Writable e
  | binary _ left right => Writable left ∧ Writable right

/-- Whether expressions have texts. -/
def WritableItems : List Expr → Prop
  | [] => True
  | e :: es => Writable e ∧ WritableItems es

/-- Whether the steps of a path have texts. -/
def WritableSteps : List Step → Prop
  | [] => True
  | .key name :: steps => IsStepName name ∧ WritableSteps steps
  | .index e :: steps => Writable e ∧ WritableSteps steps
end

end Expr

end SeriesQuery
