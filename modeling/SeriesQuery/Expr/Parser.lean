import SeriesQuery.Expr.Token
import SeriesQuery.Text.Quoted

/-!
# Reading expressions

One reader for each level, loosest first: chains of operators to the left, at most one comparison, a
sign in front, and last a primary expression. Every reader gives the tree with the text after it, or
the text where the last primary expression was looked for and not found. A negation, a bracket or a
call that fails inside is not one, and what it starts with is read as something else.

`Expr.parse` reads a whole text. The readers stop because each of them leaves less than it was
given.
-/

namespace SeriesQuery

/-- Why a text is no expression. -/
inductive ParseError where
  /-- An expression ends before the text does. -/
  | leftover (source rest : String)
  /-- No expression starts at `rest`. -/
  | unreadable (source rest : String)
  deriving DecidableEq

/-- The wording of the error. -/
def ParseError.message : ParseError → String
  | leftover source rest => "Unexpected input in '" ++ source ++ "' at '" ++ rest ++ "'"
  | unreadable source rest =>
    "Cannot parse '" ++ source ++ "': Error(Error \x7b input: " ++ Text.quote rest.toList ++
      ", code: TakeWhile1 \x7d)"

/-- A tree and the text after it, or the text where a primary expression is missing. -/
abbrev Reading (α : Type) := Except (List Char) (α × List Char)

namespace Expr

open Token

mutual
/-- Reads an expression of a level. -/
def read (level : Level) (s : List Char) : Reading Expr :=
  match level with
  | .disjunction =>
    match read .conjunction s with
    | .error e => .error e
    | .ok (first, rest) =>
      if rest.length < s.length then chain .disjunction .conjunction first rest
      else .ok (first, rest)
  | .conjunction =>
    match read .negation s with
    | .error e => .error e
    | .ok (first, rest) =>
      if rest.length < s.length then chain .conjunction .negation first rest
      else .ok (first, rest)
  | .negation =>
    match h : negation? s with
    | some after =>
      have := length_negation?_lt h
      match read .negation after with
      | .ok (e, rest) => .ok (.not e, rest)
      | .error _ => read .comparison s
    | none => read .comparison s
  | .comparison =>
    match read .sum s with
    | .error e => .error e
    | .ok (left, rest) =>
      match operator? .comparison (skip rest) with
      | none => .ok (left, rest)
      | some (op, after) =>
        if (skip after).length < s.length then
          match read .sum (skip after) with
          | .error e => .error e
          | .ok (right, rest) => .ok (.binary op left right, rest)
        else .ok (left, rest)
  | .sum =>
    match read .product s with
    | .error e => .error e
    | .ok (first, rest) =>
      if rest.length < s.length then chain .sum .product first rest
      else .ok (first, rest)
  | .product =>
    match read .minus s with
    | .error e => .error e
    | .ok (first, rest) =>
      if rest.length < s.length then chain .product .minus first rest
      else .ok (first, rest)
  | .minus =>
    match h : minus? s with
    | some after =>
      have := length_minus?_lt h
      match read .minus after with
      | .ok (e, rest) => .ok (.neg e, rest)
      | .error _ => read .primary s
    | none => read .primary s
  | .primary =>
    match s with
    | [] => .error []
    | c :: after =>
      have := length_skip_le after
      if c = '[' then
        let (items, rest) := readItems (skip after)
        match closing? ']' rest with
        | some rest => .ok (.array items, rest)
        | none => .error (c :: after)
      else if c = '(' then
        match read .disjunction (skip after) with
        | .ok (e, rest) =>
          match closing? ')' rest with
          | some rest => .ok (e, rest)
          | none => .error (c :: after)
        | .error _ => .error (c :: after)
      else if Text.isAsciiDigit c then
        match number? (c :: after) with
        | some (n, rest) => .ok (.literal (.num n), rest)
        | none => .error (c :: after)
      else if c = '\'' ∨ c = '"' then
        match quoted? (c :: after) with
        | some (t, rest) => .ok (.literal (.str t), rest)
        | none => .error (c :: after)
      else
        match h : word? (c :: after) with
        | none => .error (c :: after)
        | some (word, rest) =>
          have := length_word?_lt h
          if isKeyword "TRUE" word then .ok (.literal (.bool true), rest)
          else if isKeyword "FALSE" word then .ok (.literal (.bool false), rest)
          else if isKeyword "NULL" word then .ok (.literal .null, rest)
          else
            match (Function.ofName? (String.ofList word)).bind fun f => readCall f rest with
            | some (e, rest) => .ok (e, rest)
            | none =>
              let (steps, rest) := readSteps rest
              .ok (.path (String.ofList word) steps, rest)
termination_by (s.length, level.rank)
decreasing_by
  all_goals first
    | exact Prod.Lex.right _ (by decide)
    | (apply Prod.Lex.left; grind)

/-- Goes on with a chain of operators of a level, whose operands have another. -/
def chain (level operand : Level) (left : Expr) (s : List Char) : Reading Expr :=
  match operator? level (skip s) with
  | none => .ok (left, s)
  | some (op, after) =>
    if (skip after).length < s.length then
      match read operand (skip after) with
      | .error e => .error e
      | .ok (right, rest) =>
        if rest.length < s.length then chain level operand (.binary op left right) rest
        else .ok (.binary op left right, rest)
    else .ok (left, s)
termination_by (s.length, 8)

/-- Reads the arguments of a call. -/
def readCall (f : Function) (s : List Char) : Option (Expr × List Char) :=
  match h : opening? '(' s with
  | some after =>
    have := length_opening?_lt h
    let (args, rest) := readItems after
    (closing? ')' rest).map (.call f args, ·)
  | none => none
termination_by (s.length, 8)

/-- Reads expressions between commas, as many as there are. -/
def readItems (s : List Char) : List Expr × List Char :=
  match read .disjunction s with
  | .error _ => ([], s)
  | .ok (first, rest) =>
    if rest.length < s.length then
      let (more, rest) := readMoreItems rest
      (first :: more, rest)
    else ([first], rest)
termination_by (s.length, 9)
decreasing_by
  · exact Prod.Lex.right _ (by decide)
  · apply Prod.Lex.left
    assumption

/-- Reads further expressions, each after a comma. -/
def readMoreItems (s : List Char) : List Expr × List Char :=
  match comma? s with
  | none => ([], s)
  | some after =>
    if after.length < s.length then
      match read .disjunction after with
      | .error _ => ([], s)
      | .ok (item, rest) =>
        if rest.length < s.length then
          let (more, rest) := readMoreItems rest
          (item :: more, rest)
        else ([item], rest)
    else ([], s)
termination_by (s.length, 8)

/-- Reads the steps of a path, as many as there are. -/
def readSteps (s : List Char) : List Step × List Char :=
  match s with
  | '.' :: after =>
    match stepName? after with
    | none => ([], s)
    | some (name, rest) =>
      if rest.length ≤ after.length then
        let (more, rest) := readSteps rest
        (.key name :: more, rest)
      else ([.key name], rest)
  | '[' :: after =>
    have := length_skip_le after
    match read .disjunction (skip after) with
    | .error _ => ([], s)
    | .ok (e, rest) =>
      match closing? ']' rest with
      | none => ([], s)
      | some rest =>
        if rest.length ≤ after.length then
          let (more, rest) := readSteps rest
          (.index e :: more, rest)
        else ([.index e], rest)
  | _ => ([], s)
termination_by (s.length, 8)
end

/-- Reads a whole text. -/
def parse (source : String) : Except ParseError Expr :=
  match read .disjunction (skip source.toList) with
  | .error rest => .error (.unreadable source (String.ofList rest))
  | .ok (e, rest) =>
    match skip rest with
    | [] => .ok e
    | left => .error (.leftover source (String.ofList left))

end Expr

end SeriesQuery
