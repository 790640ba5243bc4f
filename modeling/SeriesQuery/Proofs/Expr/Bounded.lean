import SeriesQuery.Proofs.Expr.Consumption
import SeriesQuery.Proofs.Expr.Levels
import SeriesQuery.Proofs.Expr.Produced

/-!
# Reading without a look at the length

The readers of expressions compare what is left with what they were given, and go on only where
less is left. The readers here are the same without these comparisons: a level reads the next
tighter one, chains, steps and items are loops that go on as long as something is found, and nothing
stops them but a bound on the depth of calls, where they give no answer.

Two facts hold of them. `Bounded.progress`: what they read, they use up. `Bounded.agrees`: they
answer at a depth that is linear in the length of the text, and answer what the readers with the
comparisons do. So no comparison ever decides anything.
-/

namespace SeriesQuery.Expr

open Token

/-- An operator, with the spaces around it, uses something up. -/
theorem consumes_skip_operator {level : Level} {op : Operator} {s after : List Char}
    (hop : operator? level (skip s) = some (op, after)) : Consumes s (skip after) :=
  .of_suffix (skip_suffix s) ((consumes_operator hop).trans_suffix (skip_suffix after))

/-- An operator and the operand after it use something up. -/
theorem consumes_round {level : Level} {op : Operator} {s after rest : List Char}
    (hop : operator? level (skip s) = some (op, after)) (hread : Consumes (skip after) rest) :
    Consumes s rest :=
  (consumes_skip_operator hop).trans_suffix hread.suffix

namespace Bounded

mutual
/-- Reads an expression of a level. -/
def read (depth : Nat) (level : Level) (s : List Char) : Option (Reading Expr) :=
  match depth with
  | 0 => none
  | depth + 1 =>
    match level with
    | .disjunction | .conjunction | .sum | .product => do
      match ← read depth level.tighter s with
      | .error left => return .error left
      | .ok (first, rest) => chain depth level level.tighter first rest
    | .negation =>
      match negation? s with
      | some after => do
        match ← read depth .negation after with
        | .ok (e, rest) => return .ok (.not e, rest)
        | .error _ => read depth .comparison s
      | none => read depth .comparison s
    | .comparison => do
      match ← read depth .sum s with
      | .error left => return .error left
      | .ok (left, rest) =>
        match operator? .comparison (skip rest) with
        | none => return .ok (left, rest)
        | some (op, after) =>
          match ← read depth .sum (skip after) with
          | .error e => return .error e
          | .ok (right, rest) => return .ok (.binary op left right, rest)
    | .minus =>
      match minus? s with
      | some after => do
        match ← read depth .minus after with
        | .ok (e, rest) => return .ok (.neg e, rest)
        | .error _ => read depth .primary s
      | none => read depth .primary s
    | .primary => readPrimary depth s

/-- Reads a primary expression. -/
def readPrimary (depth : Nat) (s : List Char) : Option (Reading Expr) :=
  match depth with
  | 0 => none
  | depth + 1 =>
    match s with
    | [] => some (.error [])
    | c :: after =>
      if c = '[' then do
        let (items, rest) ← readItems depth (skip after)
        match closing? ']' rest with
        | some rest => return .ok (.array items, rest)
        | none => return .error (c :: after)
      else if c = '(' then do
        match ← read depth .disjunction (skip after) with
        | .ok (e, rest) =>
          match closing? ')' rest with
          | some rest => return .ok (e, rest)
          | none => return .error (c :: after)
        | .error _ => return .error (c :: after)
      else if Text.isAsciiDigit c then
        match number? (c :: after) with
        | some (n, rest) => some (.ok (.literal (.num n), rest))
        | none => some (.error (c :: after))
      else if c = '\'' ∨ c = '"' then
        match quoted? (c :: after) with
        | some (t, rest) => some (.ok (.literal (.str t), rest))
        | none => some (.error (c :: after))
      else
        match word? (c :: after) with
        | some (word, rest) => readWord depth word rest
        | none => some (.error (c :: after))

/-- Reads what starts with a word: a constant, a call, or a path. -/
def readWord (depth : Nat) (word s : List Char) : Option (Reading Expr) :=
  match depth with
  | 0 => none
  | depth + 1 =>
    if isKeyword "TRUE" word then some (.ok (.literal (.bool true), s))
    else if isKeyword "FALSE" word then some (.ok (.literal (.bool false), s))
    else if isKeyword "NULL" word then some (.ok (.literal .null, s))
    else
      match Function.ofName? (String.ofList word) with
      | some f => do
        match ← readCall depth f s with
        | some (e, rest) => return .ok (e, rest)
        | none => readPath depth word s
      | none => readPath depth word s

/-- Reads the steps after the variable of a path. -/
def readPath (depth : Nat) (word s : List Char) : Option (Reading Expr) :=
  match depth with
  | 0 => none
  | depth + 1 => do
    let (steps, rest) ← readSteps depth s
    return .ok (.path (String.ofList word) steps, rest)

/-- Goes on with a chain of operators of a level, whose operands have another. -/
def chain (depth : Nat) (level operand : Level) (left : Expr) (s : List Char) :
    Option (Reading Expr) :=
  match depth with
  | 0 => none
  | depth + 1 =>
    match operator? level (skip s) with
    | none => some (.ok (left, s))
    | some (op, after) => do
      match ← read depth operand (skip after) with
      | .error e => return .error e
      | .ok (right, rest) => chain depth level operand (.binary op left right) rest

/-- Reads the arguments of a call. -/
def readCall (depth : Nat) (f : Function) (s : List Char) : Option (Option (Expr × List Char)) :=
  match depth with
  | 0 => none
  | depth + 1 =>
    match opening? '(' s with
    | none => some none
    | some after => do
      let (args, rest) ← readItems depth after
      return (closing? ')' rest).map (.call f args, ·)

/-- Reads expressions between commas, as many as there are. -/
def readItems (depth : Nat) (s : List Char) : Option (List Expr × List Char) :=
  match depth with
  | 0 => none
  | depth + 1 => do
    match ← read depth .disjunction s with
    | .error _ => return ([], s)
    | .ok (first, rest) =>
      let (more, rest) ← readMoreItems depth rest
      return (first :: more, rest)

/-- Reads further expressions, each after a comma. -/
def readMoreItems (depth : Nat) (s : List Char) : Option (List Expr × List Char) :=
  match depth with
  | 0 => none
  | depth + 1 =>
    match comma? s with
    | none => some ([], s)
    | some after => do
      match ← read depth .disjunction after with
      | .error _ => return ([], s)
      | .ok (item, rest) =>
        let (more, rest) ← readMoreItems depth rest
        return (item :: more, rest)

/-- Reads the steps of a path, as many as there are. -/
def readSteps (depth : Nat) (s : List Char) : Option (List Step × List Char) :=
  match depth with
  | 0 => none
  | depth + 1 =>
    match s with
    | '.' :: after =>
      match stepName? after with
      | none => some ([], s)
      | some (name, rest) => do
        let (more, rest) ← readSteps depth rest
        return (.key name :: more, rest)
    | '[' :: after => do
      match ← read depth .disjunction (skip after) with
      | .error _ => return ([], s)
      | .ok (e, rest) =>
        match closing? ']' rest with
        | none => return ([], s)
        | some rest =>
          let (more, rest) ← readSteps depth rest
          return (.index e :: more, rest)
    | _ => some ([], s)
end

/-- What the readers read at a depth is used up: an expression and a call leave less than they were
given, and the loops, which may find nothing, leave an end of it. -/
structure Progress (depth : Nat) : Prop where
  read {level : Level} {s rest : List Char} {e : Expr} :
    read depth level s = some (.ok (e, rest)) → Consumes s rest
  readPrimary {s rest : List Char} {e : Expr} :
    readPrimary depth s = some (.ok (e, rest)) → Consumes s rest
  readWord {word s rest : List Char} {e : Expr} :
    readWord depth word s = some (.ok (e, rest)) → rest <:+ s
  readPath {word s rest : List Char} {e : Expr} :
    readPath depth word s = some (.ok (e, rest)) → rest <:+ s
  chain {level operand : Level} {left e : Expr} {s rest : List Char} :
    chain depth level operand left s = some (.ok (e, rest)) → rest <:+ s
  readCall {f : Function} {s rest : List Char} {e : Expr} :
    readCall depth f s = some (some (e, rest)) → Consumes s rest
  readItems {s rest : List Char} {items : List Expr} :
    readItems depth s = some (items, rest) → rest <:+ s
  readMoreItems {s rest : List Char} {items : List Expr} :
    readMoreItems depth s = some (items, rest) → rest <:+ s
  readSteps {s rest : List Char} {steps : List Step} :
    readSteps depth s = some (steps, rest) → rest <:+ s

namespace Progress

variable {depth : Nat} {s rest : List Char} {e : Expr} (ih : Progress depth)

include ih

/-- A chain and its first operand. -/
theorem read_chained {level : Level}
    (h : (do
      match ← Bounded.read depth level.tighter s with
      | .error left => return .error left
      | .ok (first, rest) => Bounded.chain depth level level.tighter first rest) =
        some (.ok (e, rest))) : Consumes s rest := by
  obtain ⟨r, hread, h⟩ := Option.bind_eq_some_iff.1 h
  split at h
  · cases h
  · exact (ih.read hread).trans_suffix (ih.chain h)

/-- An operand after a sign, or what the sign is read as without one. -/
theorem read_signed {level plain : Level} {sign : Expr → Expr} {after : List Char}
    (hafter : Consumes s after)
    (h : (do
      match ← Bounded.read depth level after with
      | .ok (e, rest) => return .ok (sign e, rest)
      | .error _ => Bounded.read depth plain s) = some (.ok (e, rest))) : Consumes s rest := by
  obtain ⟨r, hread, h⟩ := Option.bind_eq_some_iff.1 h
  split at h
  · cases h
    exact hafter.trans_suffix (ih.read hread).suffix
  · exact ih.read h

/-- An expression of a level. -/
theorem read_succ {level : Level} (h : Bounded.read (depth + 1) level s = some (.ok (e, rest))) :
    Consumes s rest := by
  cases level with
  | disjunction | conjunction | sum | product => exact ih.read_chained h
  | negation =>
      simp only [Bounded.read] at h
      split at h
      · next after hsign => exact ih.read_signed (consumes_negation hsign) h
      · exact ih.read h
  | comparison =>
      obtain ⟨r, hleft, h⟩ := Option.bind_eq_some_iff.1 h
      split at h
      · cases h
      · split at h
        · cases h
          exact ih.read hleft
        · next op after hop =>
            obtain ⟨r, hright, h⟩ := Option.bind_eq_some_iff.1 h
            split at h
            · cases h
            · cases h
              have hround := consumes_round hop (ih.read hright)
              exact (ih.read hleft).trans_suffix hround.suffix
  | minus =>
      simp only [Bounded.read] at h
      split at h
      · next after hsign => exact ih.read_signed (consumes_minus hsign) h
      · exact ih.read h
  | primary => exact ih.readPrimary h

/-- A primary expression. -/
theorem readPrimary_succ (h : Bounded.readPrimary (depth + 1) s = some (.ok (e, rest))) :
    Consumes s rest := by
  cases s with
  | nil => cases h
  | cons c after =>
      have hafter : Consumes (c :: after) (skip after) :=
        (Consumes.cons c after).trans_suffix (skip_suffix after)
      simp only [Bounded.readPrimary] at h
      split_ifs at h
      · -- an array
        obtain ⟨⟨items, left⟩, hitems, h⟩ := Option.bind_eq_some_iff.1 h
        simp only at h
        split at h
        · next hclosing =>
            cases h
            exact (hafter.trans_suffix (ih.readItems hitems)).trans_suffix
              (consumes_closing hclosing).suffix
        · cases h
      · -- an expression in brackets
        obtain ⟨r, hread, h⟩ := Option.bind_eq_some_iff.1 h
        split at h
        · split at h
          · next hclosing =>
              cases h
              exact (hafter.trans_suffix (ih.read hread).suffix).trans_suffix
                (consumes_closing hclosing).suffix
          · cases h
        · cases h
      · split at h
        · next hnumber =>
            cases h
            exact consumes_number hnumber
        · cases h
      · split at h
        · next hquoted =>
            cases h
            exact consumes_quoted hquoted
        · cases h
      · split at h
        · next word left hword => exact (consumes_word hword).trans_suffix (ih.readWord h)
        · cases h

/-- A constant, a call or a path, after its first word. -/
theorem readWord_succ {word : List Char}
    (h : Bounded.readWord (depth + 1) word s = some (.ok (e, rest))) : rest <:+ s := by
  simp only [Bounded.readWord] at h
  split_ifs at h
  · cases h
    exact List.suffix_rfl
  · cases h
    exact List.suffix_rfl
  · cases h
    exact List.suffix_rfl
  · split at h
    · obtain ⟨r, hcall, h⟩ := Option.bind_eq_some_iff.1 h
      split at h
      · cases h
        exact (ih.readCall hcall).suffix
      · exact ih.readPath h
    · exact ih.readPath h

/-- A path, after its variable. -/
theorem readPath_succ {word : List Char}
    (h : Bounded.readPath (depth + 1) word s = some (.ok (e, rest))) : rest <:+ s := by
  obtain ⟨⟨steps, left⟩, hsteps, h⟩ := Option.bind_eq_some_iff.1 h
  cases h
  exact ih.readSteps hsteps

/-- A chain: every round uses up an operator and an operand. -/
theorem chain_succ {level operand : Level} {left : Expr}
    (h : Bounded.chain (depth + 1) level operand left s = some (.ok (e, rest))) : rest <:+ s := by
  simp only [Bounded.chain] at h
  split at h
  · cases h
    exact List.suffix_rfl
  · next op after hop =>
      obtain ⟨r, hright, h⟩ := Option.bind_eq_some_iff.1 h
      split at h
      · cases h
      · exact (ih.chain h).trans (consumes_round hop (ih.read hright)).suffix

/-- The arguments of a call. -/
theorem readCall_succ {f : Function}
    (h : Bounded.readCall (depth + 1) f s = some (some (e, rest))) : Consumes s rest := by
  simp only [Bounded.readCall] at h
  split at h
  · cases h
  · next after hopening =>
      obtain ⟨⟨args, left⟩, hitems, h⟩ := Option.bind_eq_some_iff.1 h
      obtain ⟨after', hclosing, heq⟩ := Option.map_eq_some_iff.1 (Option.some.inj h)
      cases heq
      exact ((consumes_opening hopening).trans_suffix (ih.readItems hitems)).trans_suffix
        (consumes_closing hclosing).suffix

/-- Items: the first one and each round after it use something up. -/
theorem readItems_succ {items : List Expr}
    (h : Bounded.readItems (depth + 1) s = some (items, rest)) : rest <:+ s := by
  obtain ⟨r, hfirst, h⟩ := Option.bind_eq_some_iff.1 h
  split at h
  · cases h
    exact List.suffix_rfl
  · obtain ⟨⟨more, left⟩, hmore, h⟩ := Option.bind_eq_some_iff.1 h
    cases h
    exact (ih.readMoreItems hmore).trans (ih.read hfirst).suffix

/-- Further items: every round uses up a comma and an item. -/
theorem readMoreItems_succ {items : List Expr}
    (h : Bounded.readMoreItems (depth + 1) s = some (items, rest)) : rest <:+ s := by
  simp only [Bounded.readMoreItems] at h
  split at h
  · cases h
    exact List.suffix_rfl
  · next after hcomma =>
      obtain ⟨r, hitem, h⟩ := Option.bind_eq_some_iff.1 h
      split at h
      · cases h
        exact List.suffix_rfl
      · obtain ⟨⟨more, left⟩, hmore, h⟩ := Option.bind_eq_some_iff.1 h
        cases h
        have hround := (consumes_comma hcomma).trans_suffix (ih.read hitem).suffix
        exact (ih.readMoreItems hmore).trans hround.suffix

/-- Steps: every round uses up a point and a name, or brackets and what is between them. -/
theorem readSteps_succ {steps : List Step}
    (h : Bounded.readSteps (depth + 1) s = some (steps, rest)) : rest <:+ s := by
  simp only [Bounded.readSteps] at h
  split at h
  · next after =>
      split at h
      · cases h
        exact List.suffix_rfl
      · next name left hname =>
          obtain ⟨⟨more, left⟩, hmore, h⟩ := Option.bind_eq_some_iff.1 h
          cases h
          exact (ih.readSteps hmore).trans
            ((consumes_stepName hname).suffix.trans (List.suffix_cons '.' after))
  · next after =>
      obtain ⟨r, hindex, h⟩ := Option.bind_eq_some_iff.1 h
      split at h
      · cases h
        exact List.suffix_rfl
      · split at h
        · cases h
          exact List.suffix_rfl
        · next hclosing =>
            obtain ⟨⟨more, left⟩, hmore, h⟩ := Option.bind_eq_some_iff.1 h
            cases h
            have hround := (consumes_closing hclosing).suffix.trans
              ((ih.read hindex).suffix.trans (skip_suffix after))
            exact (ih.readSteps hmore).trans (hround.trans (List.suffix_cons '[' after))
  · cases h
    exact List.suffix_rfl

end Progress

/-- Nothing is read at no depth. -/
theorem progress_zero : Progress 0 where
  read h := by cases h
  readPrimary h := by cases h
  readWord h := by cases h
  readPath h := by cases h
  chain h := by cases h
  readCall h := by cases h
  readItems h := by cases h
  readMoreItems h := by cases h
  readSteps h := by cases h

/-- What is read is used up, at every depth. -/
theorem progress (depth : Nat) : Progress depth := by
  -- no reader looks at lengths, so the depth is all that an induction can go by
  induction depth with
  | zero => exact progress_zero
  | succ depth ih =>
      exact ⟨ih.read_succ, ih.readPrimary_succ, ih.readWord_succ, ih.readPath_succ, ih.chain_succ,
        ih.readCall_succ, ih.readItems_succ, ih.readMoreItems_succ, ih.readSteps_succ⟩

/-- The readers answer at a depth, for texts that are short enough, what the readers that compare
lengths do. Ten calls for each character are enough, as no text is handed on as it is more than nine
times: from items to a disjunction, through the levels, and to a primary expression. -/
structure Agrees (depth : Nat) : Prop where
  read {level : Level} {s : List Char} : 10 * s.length + level.rank + 1 < depth →
    Bounded.read depth level s = some (Expr.read level s)
  readPrimary {s : List Char} : 10 * s.length < depth →
    Bounded.readPrimary depth s = some (Expr.read .primary s)
  readWord {word s source : List Char} : word? source = some (word, s) →
    10 * s.length + 2 < depth → Bounded.readWord depth word s = some (Expr.read .primary source)
  readPath {word s : List Char} : 10 * s.length + 1 < depth → Bounded.readPath depth word s =
    some (.ok (.path (String.ofList word) (Expr.readSteps s).1, (Expr.readSteps s).2))
  chain {level operand : Level} {left : Expr} {s : List Char} : 10 * s.length < depth →
    Bounded.chain depth level operand left s = some (Expr.chain level operand left s)
  readCall {f : Function} {s : List Char} : 10 * s.length < depth →
    Bounded.readCall depth f s = some (Expr.readCall f s)
  readItems {s : List Char} : 10 * s.length + 9 < depth →
    Bounded.readItems depth s = some (Expr.readItems s)
  readMoreItems {s : List Char} : 10 * s.length < depth →
    Bounded.readMoreItems depth s = some (Expr.readMoreItems s)
  readSteps {s : List Char} : 10 * s.length < depth →
    Bounded.readSteps depth s = some (Expr.readSteps s)

namespace Agrees

variable {depth : Nat} {s rest : List Char} {e : Expr} (ih : Agrees depth)

include ih

/-- What is read where the readers agree is used up. -/
theorem consumes {level : Level} (hdepth : 10 * s.length + level.rank + 1 < depth)
    (h : Expr.read level s = .ok (e, rest)) : Consumes s rest :=
  (progress depth).read ((ih.read hdepth).trans (congrArg some h))

/-- A chain goes on without a comparison. -/
theorem chain_succ {level operand : Level} {left : Expr} (hdepth : 10 * s.length < depth + 1) :
    Bounded.chain (depth + 1) level operand left s = some (Expr.chain level operand left s) := by
  rw [Bounded.chain, Expr.chain]
  cases hop : operator? level (skip s) with
  | none => rfl
  | some found =>
      obtain ⟨op, after⟩ := found
      have hafter := (consumes_skip_operator hop).length_lt
      have hrank := operand.rank_le
      have hoperand : 10 * (skip after).length + operand.rank + 1 < depth := by omega
      simp only [ih.read hoperand, Option.bind_eq_bind, Option.bind_some, hafter, ↓reduceIte]
      cases hread : Expr.read operand (skip after) with
      | error left => rfl
      | ok found =>
          obtain ⟨right, rest⟩ := found
          have hlt := (consumes_round hop (ih.consumes hoperand hread)).length_lt
          simp only [hlt, ↓reduceIte]
          exact ih.chain (by omega)

/-- A chain and its first operand are read without a comparison. -/
theorem read_chained {level : Level} (hlevel : level.chains = true)
    (hdepth : 10 * s.length + level.rank + 1 < depth + 1) :
    (do
      match ← Bounded.read depth level.tighter s with
      | .error left => return .error left
      | .ok (first, rest) => Bounded.chain depth level level.tighter first rest) =
        some (Expr.read level s) := by
  have hprimary : level ≠ .primary := by
    intro h
    rw [h] at hlevel
    cases hlevel
  have hrank := Level.rank_tighter hprimary
  have htighter : 10 * s.length + level.tighter.rank + 1 < depth := by omega
  simp only [ih.read htighter, Option.bind_eq_bind, Option.bind_some]
  cases hread : Expr.read level.tighter s with
  | error left => exact congrArg some (read_chain_error hlevel hread).symm
  | ok found =>
      obtain ⟨first, rest⟩ := found
      have hlt := (ih.consumes htighter hread).length_lt
      rw [read_chain hlevel hread hlt]
      exact ih.chain (by omega)

/-- An operand after a sign is read without a comparison. -/
theorem read_signed {level plain : Level} {sign : Expr → Expr} {after : List Char}
    (hafter : 10 * after.length + level.rank + 1 < depth)
    (hplain : 10 * s.length + plain.rank + 1 < depth) :
    (do
      match ← Bounded.read depth level after with
      | .ok (e, rest) => return .ok (sign e, rest)
      | .error _ => Bounded.read depth plain s) =
        some (match Expr.read level after with
          | .ok (e, rest) => .ok (sign e, rest)
          | .error _ => Expr.read plain s) := by
  simp only [ih.read hafter, ih.read hplain, Option.bind_eq_bind, Option.bind_some]
  cases Expr.read level after <;> rfl

/-- An expression of a level is read without a comparison. -/
theorem read_succ {level : Level} (hdepth : 10 * s.length + level.rank + 1 < depth + 1) :
    Bounded.read (depth + 1) level s = some (Expr.read level s) := by
  cases level with
  | disjunction | conjunction | sum | product => exact ih.read_chained rfl hdepth
  | negation =>
      have hplain : 10 * s.length + Level.comparison.rank + 1 < depth := by
        simp only [Level.rank] at hdepth ⊢
        omega
      simp only [Bounded.read]
      cases hsign : negation? s with
      | none => rw [read_negation_plain hsign, ih.read hplain]
      | some after =>
          have hlt := (consumes_negation hsign).length_lt
          rw [read_negation_after hsign]
          exact ih.read_signed (by omega) hplain
  | comparison =>
      have hsum : 10 * s.length + Level.sum.rank + 1 < depth := by
        simp only [Level.rank] at hdepth ⊢
        omega
      rw [Bounded.read, Expr.read]
      simp only [ih.read hsum, Option.bind_eq_bind, Option.bind_some]
      cases hleft : Expr.read .sum s with
      | error left => rfl
      | ok found =>
          obtain ⟨left, rest⟩ := found
          have hlt := (ih.consumes hsum hleft).length_lt
          simp only
          cases hop : operator? .comparison (skip rest) with
          | none => rfl
          | some found =>
              obtain ⟨op, after⟩ := found
              have hafter := (consumes_skip_operator hop).length_lt
              have hright : 10 * (skip after).length + Level.sum.rank + 1 < depth := by omega
              simp only [ih.read hright, Option.bind_some, hafter.trans hlt, ↓reduceIte]
              cases Expr.read .sum (skip after) <;> rfl
  | minus =>
      have hplain : 10 * s.length + Level.primary.rank + 1 < depth := by
        simp only [Level.rank] at hdepth ⊢
        omega
      simp only [Bounded.read]
      cases hsign : minus? s with
      | none => rw [read_minus_plain hsign, ih.read hplain]
      | some after =>
          have hlt := (consumes_minus hsign).length_lt
          rw [read_minus_after hsign]
          exact ih.read_signed (by omega) hplain
  | primary => exact ih.readPrimary (by simp only [Level.rank] at hdepth; omega)

/-- A primary expression is read without a comparison. -/
theorem readPrimary_succ (hdepth : 10 * s.length < depth + 1) :
    Bounded.readPrimary (depth + 1) s = some (Expr.read .primary s) := by
  cases s with
  | nil =>
      rw [Expr.read]
      rfl
  | cons c after =>
      have hlt : (skip after).length < (c :: after).length :=
        ((Consumes.cons c after).trans_suffix (skip_suffix after)).length_lt
      simp only [Bounded.readPrimary]
      split_ifs with hbracket hparen hdigit hmark
      · -- an array
        have hitems : Bounded.readItems depth (skip after) = some (Expr.readItems (skip after)) :=
          ih.readItems (by omega)
        rw [Expr.read, if_pos hbracket, hitems]
        simp only [Option.bind_eq_bind, Option.bind_some]
        cases closing? ']' (Expr.readItems (skip after)).2 <;> rfl
      · -- an expression in brackets
        have hread : Bounded.read depth .disjunction (skip after) =
            some (Expr.read .disjunction (skip after)) :=
          ih.read (by simp only [Level.rank]; omega)
        rw [Expr.read, if_neg hbracket, if_pos hparen, hread]
        simp only [Option.bind_eq_bind, Option.bind_some]
        cases Expr.read .disjunction (skip after) with
        | error left => rfl
        | ok found =>
            simp only
            cases closing? ')' found.2 <;> rfl
      · rw [Expr.read, if_neg hbracket, if_neg hparen, if_pos hdigit]
        cases number? (c :: after) <;> rfl
      · rw [Expr.read, if_neg hbracket, if_neg hparen, if_neg hdigit, if_pos hmark]
        cases quoted? (c :: after) <;> rfl
      · cases hword : word? (c :: after) with
        | none =>
            rw [Expr.read, if_neg hbracket, if_neg hparen, if_neg hdigit, if_neg hmark]
            refine congrArg some ?_
            split
            · rfl
            · next hfound => cases hword.symm.trans hfound
        | some found =>
            obtain ⟨word, rest⟩ := found
            have hrest := (consumes_word hword).length_lt
            exact ih.readWord hword (by omega)

/-- What starts with a word is read without a comparison. -/
theorem readWord_succ {word source : List Char} (hword : word? source = some (word, s))
    (hdepth : 10 * s.length + 2 < depth + 1) :
    Bounded.readWord (depth + 1) word s = some (Expr.read .primary source) := by
  have hpath : Bounded.readPath depth word s =
      some (.ok (.path (String.ofList word) (Expr.readSteps s).1, (Expr.readSteps s).2)) :=
    ih.readPath (by omega)
  rw [read_word hword]
  simp only [Bounded.readWord]
  split_ifs
  · rfl
  · rfl
  · rfl
  · cases Function.ofName? (String.ofList word) with
    | none => exact hpath
    | some f =>
        have hcall : Bounded.readCall depth f s = some (Expr.readCall f s) := ih.readCall (by omega)
        simp only [hcall, Option.bind_eq_bind, Option.bind_some]
        cases Expr.readCall f s with
        | none => exact hpath
        | some found => rfl

/-- A path is read without a comparison. -/
theorem readPath_succ {word : List Char} (hdepth : 10 * s.length + 1 < depth + 1) :
    Bounded.readPath (depth + 1) word s =
      some (.ok (.path (String.ofList word) (Expr.readSteps s).1, (Expr.readSteps s).2)) := by
  simp only [Bounded.readPath, ih.readSteps (by omega : 10 * s.length < depth),
    Option.bind_eq_bind, Option.bind_some]
  rfl

/-- A call is read without a comparison. -/
theorem readCall_succ {f : Function} (hdepth : 10 * s.length < depth + 1) :
    Bounded.readCall (depth + 1) f s = some (Expr.readCall f s) := by
  simp only [Bounded.readCall, readCall_eq]
  cases hopening : opening? '(' s with
  | none => rfl
  | some after =>
      have hlt := (consumes_opening hopening).length_lt
      have hitems : Bounded.readItems depth after = some (Expr.readItems after) :=
        ih.readItems (by omega)
      simp only [hitems, Option.bind_eq_bind, Option.bind_some]
      rfl

/-- Items are read without a comparison. -/
theorem readItems_succ (hdepth : 10 * s.length + 9 < depth + 1) :
    Bounded.readItems (depth + 1) s = some (Expr.readItems s) := by
  have hfirst : 10 * s.length + Level.disjunction.rank + 1 < depth := by
    simp only [Level.rank]
    omega
  rw [Bounded.readItems, Expr.readItems]
  simp only [ih.read hfirst, Option.bind_eq_bind, Option.bind_some]
  cases hread : Expr.read .disjunction s with
  | error left => rfl
  | ok found =>
      obtain ⟨first, rest⟩ := found
      have hlt := (ih.consumes hfirst hread).length_lt
      simp only [hlt, ↓reduceIte, ih.readMoreItems (by omega : 10 * rest.length < depth),
        Option.bind_some]
      rfl

/-- Further items are read without a comparison. -/
theorem readMoreItems_succ (hdepth : 10 * s.length < depth + 1) :
    Bounded.readMoreItems (depth + 1) s = some (Expr.readMoreItems s) := by
  rw [Bounded.readMoreItems, Expr.readMoreItems]
  cases hcomma : comma? s with
  | none => rfl
  | some after =>
      have hafter := (consumes_comma hcomma).length_lt
      have hitem : 10 * after.length + Level.disjunction.rank + 1 < depth := by
        simp only [Level.rank]
        omega
      simp only [hafter, ↓reduceIte, ih.read hitem, Option.bind_eq_bind, Option.bind_some]
      cases hread : Expr.read .disjunction after with
      | error left => rfl
      | ok found =>
          obtain ⟨item, rest⟩ := found
          have hlt := (ih.consumes hitem hread).length_lt
          simp only [hlt.trans hafter, ↓reduceIte,
            ih.readMoreItems (by omega : 10 * rest.length < depth), Option.bind_some]
          rfl

/-- Steps are read without a comparison. -/
theorem readSteps_succ (hdepth : 10 * s.length < depth + 1) :
    Bounded.readSteps (depth + 1) s = some (Expr.readSteps s) := by
  simp only [Bounded.readSteps]
  split
  · next after =>
      rw [Expr.readSteps]
      cases hname : stepName? after with
      | none => rfl
      | some found =>
          obtain ⟨name, rest⟩ := found
          have hlt := (consumes_stepName hname).length_lt
          have hsteps : Bounded.readSteps depth rest = some (Expr.readSteps rest) :=
            ih.readSteps (by simp only [List.length_cons] at hdepth; omega)
          simp only [hsteps, hlt.le, ↓reduceIte, Option.bind_eq_bind, Option.bind_some]
          rfl
  · next after =>
      have hskip := length_skip_le after
      have hindex : 10 * (skip after).length + Level.disjunction.rank + 1 < depth := by
        simp only [Level.rank, List.length_cons] at hdepth ⊢
        omega
      rw [Expr.readSteps]
      simp only [ih.read hindex, Option.bind_eq_bind, Option.bind_some]
      cases hread : Expr.read .disjunction (skip after) with
      | error left => rfl
      | ok found =>
          obtain ⟨e, rest⟩ := found
          have hlt := (ih.consumes hindex hread).length_lt
          simp only
          cases hclosing : closing? ']' rest with
          | none => rfl
          | some left =>
              have hleft := (consumes_closing hclosing).length_lt
              have hle : left.length ≤ after.length := by omega
              have hsteps : Bounded.readSteps depth left = some (Expr.readSteps left) :=
                ih.readSteps (by simp only [List.length_cons] at hdepth; omega)
              simp only [hsteps, hle, ↓reduceIte, Option.bind_some]
              rfl
  · next hdot hbracket =>
      rw [Expr.readSteps]
      · exact hdot
      · exact hbracket

end Agrees

/-- No text is short enough for no depth. -/
theorem agrees_zero : Agrees 0 where
  read h := absurd h (Nat.not_lt_zero _)
  readPrimary h := absurd h (Nat.not_lt_zero _)
  readWord _ h := absurd h (Nat.not_lt_zero _)
  readPath h := absurd h (Nat.not_lt_zero _)
  chain h := absurd h (Nat.not_lt_zero _)
  readCall h := absurd h (Nat.not_lt_zero _)
  readItems h := absurd h (Nat.not_lt_zero _)
  readMoreItems h := absurd h (Nat.not_lt_zero _)
  readSteps h := absurd h (Nat.not_lt_zero _)

/-- The readers agree at every depth. -/
theorem agrees (depth : Nat) : Agrees depth := by
  -- in each step `progress` says that the comparisons come out as they should
  induction depth with
  | zero => exact agrees_zero
  | succ depth ih =>
      exact ⟨ih.read_succ, ih.readPrimary_succ, ih.readWord_succ, ih.readPath_succ, ih.chain_succ,
        ih.readCall_succ, ih.readItems_succ, ih.readMoreItems_succ, ih.readSteps_succ⟩

/-- Reads a whole text. -/
def parse (depth : Nat) (source : String) : Option (Except ParseError Expr) := do
  match ← read depth .disjunction (skip source.toList) with
  | .error rest => return .error (.unreadable source (String.ofList rest))
  | .ok (e, rest) =>
    match skip rest with
    | [] => return .ok e
    | left => return .error (.leftover source (String.ofList left))

/-- A whole text is read at a depth that is linear in its length, without a comparison. -/
theorem parse_eq {depth : Nat} {source : String} (h : 10 * source.length + 8 < depth) :
    parse depth source = some (Expr.parse source) := by
  have hlength := length_skip_le source.toList
  rw [String.length_toList] at hlength
  have hread : read depth .disjunction (skip source.toList) =
      some (Expr.read .disjunction (skip source.toList)) :=
    (agrees depth).read (by simp only [Level.rank]; omega)
  simp only [parse, Expr.parse, hread, Option.bind_eq_bind, Option.bind_some]
  cases Expr.read .disjunction (skip source.toList) with
  | error rest => rfl
  | ok found =>
      obtain ⟨e, rest⟩ := found
      simp only
      cases skip rest <;> rfl

end Bounded

/-- An expression that is read is used up. -/
theorem consumes_of_read {level : Level} {s rest : List Char} {e : Expr}
    (h : read level s = .ok (e, rest)) : Consumes s rest :=
  (Bounded.agrees (10 * s.length + level.rank + 2)).consumes (Nat.lt_succ_self _) h

end SeriesQuery.Expr
