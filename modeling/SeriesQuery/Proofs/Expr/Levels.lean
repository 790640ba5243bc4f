import SeriesQuery.Proofs.Expr.Tokens

/-!
# Reading level by level

Equations for the readers, one for each shape of a level: chains of operators, comparisons, signs in
front, parentheses. `Expr.read_looser` joins them: what a tight level reads is what every looser
level reads, as long as nothing goes on with it and no sign stands in front.
-/

namespace SeriesQuery

open Token

namespace Level

/-- Whether the operators of a level form chains. -/
def chains : Level → Bool
  | disjunction | conjunction | sum | product => true
  | negation | comparison | minus | primary => false

/-- The next tighter level has the next smaller rank. -/
theorem rank_tighter {level : Level} (h : level ≠ primary) :
    level.tighter.rank + 1 = level.rank := by
  cases level <;> first | rfl | exact absurd rfl h

/-- Levels of one rank are one level. -/
theorem eq_of_rank_eq {level m : Level} (h : level.rank = m.rank) : level = m := by
  cases level <;> cases m <;> first | rfl | (exact absurd h (by decide))

/-- The loosest level has seven tighter ones. -/
theorem rank_le (level : Level) : level.rank ≤ 7 := by
  cases level <;> decide

end Level

namespace Expr

/-- A chain of operators starts with an operand of the next tighter level. -/
theorem read_chain {level : Level} (hlevel : level.chains = true) {s rest : List Char}
    {first : Expr} (h : read level.tighter s = .ok (first, rest)) (hlen : rest.length < s.length) :
    read level s = chain level level.tighter first rest := by
  cases level with
  | disjunction | conjunction | sum | product =>
      rw [read]
      simp only [Level.tighter] at h ⊢
      simp [h, hlen]
  | negation | comparison | minus | primary => cases hlevel

/-- A chain without a first operand is not read. -/
theorem read_chain_error {level : Level} (hlevel : level.chains = true) {s left : List Char}
    (h : read level.tighter s = .error left) : read level s = .error left := by
  cases level with
  | disjunction | conjunction | sum | product =>
      simp only [Level.tighter] at h
      rw [read, h]
  | negation | comparison | minus | primary => cases hlevel

/-- A chain ends where no operator of its level follows. -/
theorem chain_stop {level operand : Level} {left : Expr} {s : List Char}
    (h : operator? level (skip s) = none) : chain level operand left s = .ok (left, s) := by
  rw [chain, h]

/-- A chain goes on with an operator of its level and an operand. -/
theorem chain_operator {op : Operator} {operand : Level} {left right : Expr} {s rest : List Char}
    (hs : skip s = s) (h : read operand s = .ok (right, rest)) (hlen : rest.length < s.length) :
    chain op.level operand left (' ' :: (op.sign ++ ' ' :: s)) =
      chain op.level operand (.binary op left right) rest := by
  obtain ⟨c, cs, hsign, hspace, _⟩ := sign_head op
  have hskip : skip (op.sign ++ ' ' :: s) = op.sign ++ ' ' :: s := by
    rw [hsign]
    exact skip_cons hspace
  rw [chain, skip_blank, hskip, operator?_sign]
  have hshorter : s.length < (' ' :: (op.sign ++ ' ' :: s)).length := by
    simp only [List.length_cons, List.length_append]
    omega
  simp only [skip_blank, hs, hshorter, hlen.trans hshorter, h, ↓reduceIte]

/-- After the sign of a negation stands its operand; where there is none, the sign is read as
something else. -/
theorem read_negation_after {s after : List Char} (hsign : negation? s = some after) :
    read .negation s =
      match read .negation after with
      | .ok (e, rest) => .ok (.not e, rest)
      | .error _ => read .comparison s := by
  rw [read]
  split
  · next found hfound =>
      obtain rfl : after = found := Option.some.inj (hsign.symm.trans hfound)
      rfl
  · next hnone => cases hsign.symm.trans hnone

/-- What a negation does to the level below it. -/
theorem read_negation_sign {s after rest : List Char} {e : Expr} (hsign : negation? s = some after)
    (h : read .negation after = .ok (e, rest)) : read .negation s = .ok (.not e, rest) := by
  rw [read_negation_after hsign, h]

/-- Where no sign of a negation stands, a negation is a comparison. -/
theorem read_negation_plain {s : List Char} (hsign : negation? s = none) :
    read .negation s = read .comparison s := by
  rw [read]
  split
  · next found hfound => simp [hsign] at hfound
  · rfl

/-- After a minus sign stands its operand; where there is none, the sign is read as something
else. -/
theorem read_minus_after {s after : List Char} (hsign : minus? s = some after) :
    read .minus s =
      match read .minus after with
      | .ok (e, rest) => .ok (.neg e, rest)
      | .error _ => read .primary s := by
  rw [read]
  split
  · next found hfound =>
      obtain rfl : after = found := Option.some.inj (hsign.symm.trans hfound)
      rfl
  · next hnone => cases hsign.symm.trans hnone

/-- A minus sign and the operand after it. -/
theorem read_minus_sign {s rest : List Char} {e : Expr} (h : read .minus (skip s) = .ok (e, rest)) :
    read .minus ('-' :: s) = .ok (.neg e, rest) := by
  have hsign : minus? ('-' :: s) = some (skip s) := rfl
  rw [read_minus_after hsign, h]

/-- Where no minus sign stands, a term with a sign is a primary expression. -/
theorem read_minus_plain {s : List Char} (hsign : minus? s = none) :
    read .minus s = read .primary s := by
  rw [read]
  split
  · next found hfound => simp [hsign] at hfound
  · rfl

/-- An operand that no comparison follows. -/
theorem read_comparison_stop {s rest : List Char} {e : Expr} (h : read .sum s = .ok (e, rest))
    (hstop : operator? .comparison (skip rest) = none) :
    read .comparison s = .ok (e, rest) := by
  rw [read]
  simp only [h, hstop]

/-- What stands after a comparison has to be its right operand. -/
theorem read_comparison_right {op : Operator} (hop : op.level = .comparison)
    {first s : List Char} {left : Expr}
    (hleft : read .sum (first ++ ' ' :: (op.sign ++ ' ' :: s)) =
      .ok (left, ' ' :: (op.sign ++ ' ' :: s)))
    (hs : skip s = s) :
    read .comparison (first ++ ' ' :: (op.sign ++ ' ' :: s)) =
      match read .sum s with
      | .ok (right, rest) => .ok (.binary op left right, rest)
      | .error e => .error e := by
  obtain ⟨c, cs, hsign, hspace, _⟩ := sign_head op
  have hskip : skip (op.sign ++ ' ' :: s) = op.sign ++ ' ' :: s := by
    rw [hsign]
    exact skip_cons hspace
  have hshorter : s.length < (first ++ ' ' :: (op.sign ++ ' ' :: s)).length := by
    simp only [List.length_cons, List.length_append]
    omega
  rw [read, hleft]
  simp only [skip_blank, hskip, ← hop, operator?_sign]
  simp only [hs, hshorter, ↓reduceIte]
  cases read .sum s <;> rfl

/-- Two operands with a comparison between them. -/
theorem read_comparison_operator {op : Operator} (hop : op.level = .comparison)
    {first s rest : List Char} {left right : Expr}
    (hleft : read .sum (first ++ ' ' :: (op.sign ++ ' ' :: s)) =
      .ok (left, ' ' :: (op.sign ++ ' ' :: s)))
    (hs : skip s = s) (hright : read .sum s = .ok (right, rest)) :
    read .comparison (first ++ ' ' :: (op.sign ++ ' ' :: s)) =
      .ok (.binary op left right, rest) := by
  rw [read_comparison_right hop hleft hs, hright]

/-- An expression in parentheses. -/
theorem read_parentheses {s rest : List Char} {e : Expr} (hs : skip s = s)
    (h : read .disjunction s = .ok (e, ')' :: rest)) :
    read .primary ('(' :: s) = .ok (e, rest) := by
  rw [read]
  simp [hs, h, closing?_self (by decide : isSpace ')' = false)]

/-- An array. -/
theorem read_array {s rest : List Char} {items : List Expr}
    (h : readItems (skip s) = (items, ']' :: rest)) :
    read .primary ('[' :: s) = .ok (.array items, rest) := by
  rw [read]
  simp [h, closing?_self (by decide : isSpace ']' = false)]

/-- A number. -/
theorem read_number {c : Char} {s rest : List Char} {n : Number} (hc : Text.isAsciiDigit c = true)
    (h : number? (c :: s) = some (n, rest)) :
    read .primary (c :: s) = .ok (.literal (.num n), rest) := by
  have harray : c ≠ '[' := by rintro rfl; exact absurd hc (by decide)
  have hparen : c ≠ '(' := by rintro rfl; exact absurd hc (by decide)
  rw [read]
  simp [harray, hparen, hc, h]

/-- A quoted text. -/
theorem read_quoted {mark : Char} (hmark : mark = '\'' ∨ mark = '"') {s cs rest : List Char}
    (h : quotedRest? mark s = some (cs, rest)) :
    read .primary (mark :: s) = .ok (.literal (.str (String.ofList cs)), rest) := by
  have hquoted : quoted? (mark :: s) = some (String.ofList cs, rest) := by
    simp [quoted?, hmark, h]
  have hdigit : Text.isAsciiDigit mark = false := by
    rcases hmark with rfl | rfl <;> decide
  rw [read]
  rcases hmark with rfl | rfl <;> simp [hdigit, hquoted]

/-- A word is a constant, a call if it names a function and arguments follow, and otherwise a
variable with its steps. -/
theorem read_word {s word rest : List Char} (hword : word? s = some (word, rest)) :
    read .primary s =
      if isKeyword "TRUE" word then .ok (.literal (.bool true), rest)
      else if isKeyword "FALSE" word then .ok (.literal (.bool false), rest)
      else if isKeyword "NULL" word then .ok (.literal .null, rest)
      else
        match (Function.ofName? (String.ofList word)).bind fun f => readCall f rest with
        | some (e, rest) => .ok (e, rest)
        | none => .ok (.path (String.ofList word) (readSteps rest).1, (readSteps rest).2) := by
  obtain ⟨c, after, rfl, hc⟩ := word?_start hword
  obtain ⟨hdigit, harray, hparen, hmark⟩ := wordStart_ne hc
  rw [read]
  simp only [harray, hparen, hdigit, hmark, ↓reduceIte, Bool.false_eq_true]
  split
  · next hnone => simp [hword] at hnone
  · next found left hfound =>
      obtain ⟨rfl, rfl⟩ : word = found ∧ rest = left := by simpa [hword] using hfound
      rfl

/-- Whether a word is one of the constants. -/
def IsConstant (word : List Char) : Prop :=
  isKeyword "TRUE" word = true ∨ isKeyword "FALSE" word = true ∨ isKeyword "NULL" word = true

/-- A word that names a function, with arguments after it. -/
theorem read_call {s word rest left : List Char} {f : Function} {e : Expr}
    (hword : word? s = some (word, rest)) (hconstant : ¬ IsConstant word)
    (hf : Function.ofName? (String.ofList word) = some f)
    (hcall : readCall f rest = some (e, left)) : read .primary s = .ok (e, left) := by
  simp only [IsConstant, not_or] at hconstant
  simp [read_word hword, hconstant, hf, hcall]

/-- A word that no arguments follow is a variable with its steps. -/
theorem read_variable {s word rest : List Char} (hword : word? s = some (word, rest))
    (hconstant : ¬ IsConstant word) (hcall : opening? '(' rest = none) :
    read .primary s =
      .ok (.path (String.ofList word) (readSteps rest).1, (readSteps rest).2) := by
  have hnone (f : Function) : readCall f rest = none := by
    rw [readCall]
    split
    · next found hfound => simp [hcall] at hfound
    · rfl
  simp only [IsConstant, not_or] at hconstant
  simp [read_word hword, hconstant, hnone]

/-- What a level cannot read, a looser one cannot either, where no sign stands in front. -/
theorem read_error {m level : Level} {s left : List Char} (hm : m.rank ≤ level.rank)
    (h : read m s = .error left)
    (hnot : m.rank < Level.negation.rank → negation? s = none)
    (hminus : m = .primary → minus? s = none) : read level s = .error left := by
  by_cases heq : m = level
  · exact heq ▸ h
  have hprimary : level ≠ .primary := by
    rintro rfl
    exact heq (Level.eq_of_rank_eq (Nat.le_zero.1 hm))
  have hrank := Level.rank_tighter hprimary
  have hlt : m.rank ≠ level.rank := fun h => heq (Level.eq_of_rank_eq h)
  have ih : read level.tighter s = .error left := read_error (by omega) h hnot hminus
  cases level with
  | disjunction | conjunction | sum | product => exact read_chain_error rfl ih
  | comparison =>
      simp only [Level.tighter] at ih
      rw [read, ih]
  | negation =>
      have hsign : m.rank < Level.negation.rank := Nat.lt_of_le_of_ne hm hlt
      rwa [read_negation_plain (hnot hsign)]
  | minus =>
      have hzero : m.rank = Level.primary.rank :=
        Nat.lt_one_iff.1 (Nat.lt_of_le_of_ne hm hlt)
      rwa [read_minus_plain (hminus (Level.eq_of_rank_eq hzero))]
  | primary => exact absurd rfl hprimary
termination_by level.rank

/-- What a level reads is what a looser one reads, where no operator follows that the looser one
takes and no sign stands in front. -/
theorem read_looser {m level : Level} {s rest : List Char} {e : Expr} (hm : m.rank ≤ level.rank)
    (h : read m s = .ok (e, rest)) (hlen : rest.length < s.length) (hrest : Stops level rest)
    (hnot : m.rank < Level.negation.rank → Level.negation.rank ≤ level.rank →
      negation? s = none)
    (hminus : m = .primary → minus? s = none) :
    read level s = .ok (e, rest) := by
  by_cases heq : m = level
  · exact heq ▸ h
  have hprimary : level ≠ .primary := by
    rintro rfl
    exact heq (Level.eq_of_rank_eq (Nat.le_zero.1 hm))
  have hrank := Level.rank_tighter hprimary
  have hlt : m.rank ≠ level.rank := fun h => heq (Level.eq_of_rank_eq h)
  have hstop := hrest.no_operator level (Nat.le_refl _)
  have ih : read level.tighter s = .ok (e, rest) :=
    read_looser (by omega) h hlen (hrest.mono (by omega)) (fun h₁ h₂ => hnot h₁ (by omega)) hminus
  cases level with
  | disjunction | conjunction | sum | product =>
      rw [read_chain rfl ih hlen, chain_stop hstop]
  | comparison => exact read_comparison_stop ih hstop
  | negation => rwa [read_negation_plain (hnot (by omega) (Nat.le_refl _))]
  | minus =>
      have hzero : m.rank = Level.primary.rank :=
        Nat.lt_one_iff.1 (Nat.lt_of_le_of_ne hm hlt)
      rwa [read_minus_plain (hminus (Level.eq_of_rank_eq hzero))]
  | primary => exact absurd rfl hprimary
termination_by level.rank

end Expr

end SeriesQuery
