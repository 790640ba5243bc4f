import SeriesQuery.Proofs.Expr.Bounded

/-!
# Progress of the readers

The readers of expressions use something up whenever they read something, and so do the rounds of
their loops: the operators of a chain with their operands, the steps of a path, the items between
commas. `exists_loops` is the argument that such a loop ends, and `readers_progress` says it of all
readers together. It also says that the readers of `Bounded`, which never look at the length of what
is left, end on every text with the same answer.
-/

namespace SeriesQuery.Expr

open Token

section Loops

variable {α : Type} {round : α → List Char → List Char → Prop}

/-- Rounds one after the other, each of which finds something and uses something up. -/
inductive Rounds (round : α → List Char → List Char → Prop) :
    List α → List Char → List Char → Prop where
  /-- No round. -/
  | stop (s : List Char) : Rounds round [] s s
  /-- A round, and those after it. -/
  | more {a : α} {found : List α} {s mid rest : List Char} (h : round a s mid)
      (hused : Consumes s mid) (hmore : Rounds round found mid rest) :
      Rounds round (a :: found) s rest

/-- A loop that goes on in rounds until there is none. -/
structure Loops (round : α → List Char → List Char → Prop) (found : List α)
    (s rest : List Char) : Prop where
  /-- The rounds of the loop. -/
  rounds : Rounds round found s rest
  /-- Where the loop ends, there is no round. -/
  last (a : α) (after : List Char) : ¬round a rest after

/-- A loop whose rounds use something up ends. -/
theorem exists_loops (round : α → List Char → List Char → Prop)
    (hround : ∀ a s rest, round a s rest → Consumes s rest) (s : List Char) :
    ∃ found rest, Loops round found s rest := by
  by_cases h : ∃ a mid, round a s mid
  · obtain ⟨a, mid, ha⟩ := h
    have hused := hround a s mid ha
    have hlt := hused.length_lt
    obtain ⟨found, rest, hloops⟩ := exists_loops round hround mid
    exact ⟨a :: found, rest, .more ha hused hloops.rounds, hloops.last⟩
  · exact ⟨[], s, .stop s, fun a mid ha => h ⟨a, mid, ha⟩⟩
termination_by s.length

/-- A reader that takes up a round and goes on behind it, and finds nothing where there is no round,
is a loop. -/
theorem loops_of_rounds {reader : List Char → List α × List Char}
    (hround : ∀ a s rest, round a s rest → Consumes s rest)
    (hmore : ∀ a s rest, round a s rest → reader s = (a :: (reader rest).1, (reader rest).2))
    (hstop : ∀ s, (∀ a rest, ¬round a s rest) → reader s = ([], s)) (s : List Char) :
    Loops round (reader s).1 s (reader s).2 := by
  obtain ⟨found, rest, hrounds, hlast⟩ := exists_loops round hround s
  -- along the rounds, back from where there is none
  have hfound : reader s = (found, rest) := by
    induction hrounds with
    | stop s => exact hstop s hlast
    | more h _ _ ih => rw [hmore _ _ _ h, ih hlast]
  rw [hfound]
  exact ⟨hrounds, hlast⟩

end Loops

section Chain

variable {level operand : Level} {left : Expr} {op : Operator} {s after rest : List Char}

/-- A round of a chain: an operator of the level and the operand after it. -/
def ChainRound (level operand : Level) (part : Operator × Expr) (s rest : List Char) : Prop :=
  ∃ after, operator? level (skip s) = some (part.1, after) ∧
    read operand (skip after) = .ok (part.2, rest)

/-- A round of a chain uses something up. -/
theorem ChainRound.consumes {part : Operator × Expr} (h : ChainRound level operand part s rest) :
    Consumes s rest := by
  obtain ⟨after, hop, hread⟩ := h
  exact consumes_round hop (consumes_of_read hread)

/-- A chain goes on with a round. -/
theorem chain_round {part : Operator × Expr} (h : ChainRound level operand part s rest) :
    chain level operand left s = chain level operand (.binary part.1 left part.2) rest := by
  have hrest := h.consumes.length_lt
  obtain ⟨after, hop, hread⟩ := h
  have hafter := (consumes_skip_operator hop).length_lt
  rw [chain, hop]
  simp only [hafter, hread, hrest, ↓reduceIte]

/-- A chain ends where an operand is missing. -/
theorem chain_missing (hop : operator? level (skip s) = some (op, after))
    (hread : read operand (skip after) = .error rest) :
    chain level operand left s = .error rest := by
  have hafter := (consumes_skip_operator hop).length_lt
  rw [chain, hop]
  simp only [hafter, hread, ↓reduceIte]

/-- The operations of a chain, which grows to the left. -/
def chained (left : Expr) (parts : List (Operator × Expr)) : Expr :=
  parts.foldl (fun e part => .binary part.1 e part.2) left

/-- A chain passes over its rounds. -/
theorem chain_rounds {parts : List (Operator × Expr)}
    (h : Rounds (ChainRound level operand) parts s rest) (left : Expr) :
    chain level operand left s = chain level operand (chained left parts) rest := by
  induction h generalizing left with
  | stop s => rfl
  | more hround _ _ ih => rw [chain_round hround, ih, chained, chained, List.foldl_cons]

/-- A chain goes on in rounds until no operator follows, where it is read, or no operand follows an
operator, where it is not. -/
theorem chain_loops (level operand : Level) (left : Expr) (s : List Char) :
    ∃ parts mid, Loops (ChainRound level operand) parts s mid ∧
      (chain level operand left s = .ok (chained left parts, mid) ∨
        ∃ op after rest, operator? level (skip mid) = some (op, after) ∧
          read operand (skip after) = .error rest ∧ chain level operand left s = .error rest) := by
  obtain ⟨parts, mid, hloops⟩ :=
    exists_loops (ChainRound level operand) (fun _ _ _ h => h.consumes) s
  refine ⟨parts, mid, hloops, ?_⟩
  rw [chain_rounds hloops.rounds]
  cases hop : operator? level (skip mid) with
  | none => exact .inl (chain_stop hop)
  | some found =>
      obtain ⟨op, after⟩ := found
      cases hread : read operand (skip after) with
      | ok found => exact absurd ⟨after, hop, hread⟩ (hloops.last (op, found.1) found.2)
      | error rest => exact .inr ⟨op, after, rest, rfl, hread, chain_missing hop hread⟩

end Chain

section Steps

variable {s rest : List Char}

/-- A round of the steps of a path: a point and a name, or an expression in brackets. -/
inductive StepRound : Step → List Char → List Char → Prop where
  | key {name : String} {after rest : List Char} (h : stepName? after = some (name, rest)) :
      StepRound (.key name) ('.' :: after) rest
  | index {e : Expr} {after mid rest : List Char}
      (h : read .disjunction (skip after) = .ok (e, mid))
      (hclosing : closing? ']' mid = some rest) : StepRound (.index e) ('[' :: after) rest

/-- A round of steps uses something up. -/
theorem StepRound.consumes {step : Step} (h : StepRound step s rest) : Consumes s rest := by
  cases h with
  | key h => exact (Consumes.cons '.' _).trans_suffix (consumes_stepName h).suffix
  | @index e after mid _ h hclosing =>
      have hskip : Consumes ('[' :: after) (skip after) :=
        (Consumes.cons '[' after).trans_suffix (skip_suffix after)
      exact (hskip.trans_suffix (consumes_of_read h).suffix).trans_suffix
        (consumes_closing hclosing).suffix

/-- Steps go on with a round. -/
theorem readSteps_round {step : Step} (h : StepRound step s rest) :
    readSteps s = (step :: (readSteps rest).1, (readSteps rest).2) := by
  cases h with
  | @key name after rest h =>
      have hle := (consumes_stepName h).length_lt.le
      rw [readSteps]
      simp only [h, hle, ↓reduceIte]
  | @index e after mid rest h hclosing =>
      have hskip := length_skip_le after
      have hmid := (consumes_of_read h).length_lt
      have hrest := (consumes_closing hclosing).length_lt
      have hle : rest.length ≤ after.length := by omega
      rw [readSteps]
      simp only [h, hclosing, hle, ↓reduceIte]

/-- Steps end where there is no round. -/
theorem readSteps_stop (h : ∀ step rest, ¬StepRound step s rest) : readSteps s = ([], s) := by
  unfold readSteps
  split
  · next after =>
      cases hname : stepName? after with
      | none => rfl
      | some found => exact absurd (.key hname) (h (.key found.1) found.2)
  · next after =>
      cases hread : read .disjunction (skip after) with
      | error left => rfl
      | ok found =>
          obtain ⟨e, mid⟩ := found
          cases hclosing : closing? ']' mid with
          | none => simp only [hclosing]
          | some rest => exact absurd (.index hread hclosing) (h (.index e) rest)
  · rfl

/-- The steps of a path go on in rounds until there is none. -/
theorem readSteps_loops (s : List Char) : Loops StepRound (readSteps s).1 s (readSteps s).2 :=
  loops_of_rounds (fun _ _ _ h => h.consumes) (fun _ _ _ h => readSteps_round h)
    (fun _ h => readSteps_stop h) s

end Steps

section Items

variable {s rest : List Char} {item : Expr}

/-- A round of items: a comma and the item after it. -/
def ItemRound (item : Expr) (s rest : List Char) : Prop :=
  ∃ after, comma? s = some after ∧ read .disjunction after = .ok (item, rest)

/-- A round of items uses something up. -/
theorem ItemRound.consumes (h : ItemRound item s rest) : Consumes s rest := by
  obtain ⟨after, hcomma, hread⟩ := h
  exact (consumes_comma hcomma).trans_suffix (consumes_of_read hread).suffix

/-- Items go on with a round. -/
theorem readMoreItems_round (h : ItemRound item s rest) :
    readMoreItems s = (item :: (readMoreItems rest).1, (readMoreItems rest).2) := by
  have hrest := h.consumes.length_lt
  obtain ⟨after, hcomma, hread⟩ := h
  have hafter := (consumes_comma hcomma).length_lt
  rw [readMoreItems, hcomma]
  simp only [hafter, hread, hrest, ↓reduceIte]

/-- Items end where there is no round. -/
theorem readMoreItems_stop (h : ∀ item rest, ¬ItemRound item s rest) :
    readMoreItems s = ([], s) := by
  rw [readMoreItems]
  cases hcomma : comma? s with
  | none => rfl
  | some after =>
      have hafter := (consumes_comma hcomma).length_lt
      cases hread : read .disjunction after with
      | ok found => exact absurd ⟨after, hcomma, hread⟩ (h found.1 found.2)
      | error left => simp only [hafter, hread, ↓reduceIte]

/-- The items after the first one go on in rounds until there is none. -/
theorem readMoreItems_loops (s : List Char) :
    Loops ItemRound (readMoreItems s).1 s (readMoreItems s).2 :=
  loops_of_rounds (fun _ _ _ h => h.consumes) (fun _ _ _ h => readMoreItems_round h)
    (fun _ h => readMoreItems_stop h) s

/-- Items are the first one, if there is one, and those after it. -/
theorem readItems_eq (s : List Char) : readItems s =
    match read .disjunction s with
    | .error _ => ([], s)
    | .ok (first, mid) => (first :: (readMoreItems mid).1, (readMoreItems mid).2) := by
  rw [readItems]
  cases hread : read .disjunction s with
  | error left => rfl
  | ok found =>
      have hlt := (consumes_of_read hread).length_lt
      simp only [hlt, ↓reduceIte]

end Items

/-- What is left over when a text is read is a proper end of it. -/
theorem parse_leftover {source source' left : String}
    (h : parse source = .error (.leftover source' left)) :
    source' = source ∧ left ≠ "" ∧ ∃ used, used ≠ "" ∧ source = used ++ left := by
  rw [parse] at h
  cases hread : read .disjunction (skip source.toList) with
  | error rest =>
      rw [hread] at h
      cases h
  | ok found =>
      obtain ⟨e, rest⟩ := found
      rw [hread] at h
      cases hrest : skip rest with
      | nil =>
          simp only [hrest] at h
          cases h
      | cons c cs =>
          simp only [hrest] at h
          cases h
          have hleft : c :: cs <:+ rest := hrest ▸ skip_suffix rest
          obtain ⟨used, hne, hused⟩ :=
            ((consumes_of_read hread).trans_suffix hleft).of_suffix (skip_suffix source.toList)
          refine ⟨rfl, ?_, String.ofList used, ?_, ?_⟩
          · rw [Ne, String.ofList_eq_empty_iff]
            exact List.cons_ne_nil c cs
          · rwa [Ne, String.ofList_eq_empty_iff]
          · rw [← String.ofList_append, ← hused, String.ofList_toList]

/-- Reading makes progress. A reader that reads an expression leaves a proper end of its text.
Chains, steps and items are loops in rounds that each use something up. A quotation is cut at a
character boundary, where counting bytes finds its closing mark. What is left over when a whole text
is read is an end of it that is not empty. So reading ends without a look at what is left, for every
text: the depth of calls that it takes is linear in the length of the text. -/
theorem readers_progress :
    (∀ level s e rest, read level s = .ok (e, rest) → Consumes s rest) ∧
    (∀ level operand left s, ∃ parts mid, Loops (ChainRound level operand) parts s mid ∧
      (chain level operand left s = .ok (chained left parts, mid) ∨
        ∃ op after rest, operator? level (skip mid) = some (op, after) ∧
          read operand (skip after) = .error rest ∧ chain level operand left s = .error rest)) ∧
    (∀ s, Loops StepRound (readSteps s).1 s (readSteps s).2) ∧
    (∀ s, Loops ItemRound (readMoreItems s).1 s (readMoreItems s).2) ∧
    (∀ s, readItems s =
      match read .disjunction s with
      | .error _ => ([], s)
      | .ok (first, mid) => (first :: (readMoreItems mid).1, (readMoreItems mid).2)) ∧
    (∀ mark s, mark = '\'' ∨ mark = '"' →
      (closingByte? mark s = none ∧ quoted? (mark :: s) = none) ∨
      ∃ n t rest, closingByte? mark s = some n ∧ quoted? (mark :: s) = some (t, rest) ∧
        CutAtByte (mark :: s) (n + 2) rest) ∧
    (∀ source source' left, parse source = .error (.leftover source' left) →
      source' = source ∧ left ≠ "" ∧ ∃ used, used ≠ "" ∧ source = used ++ left) ∧
    (∀ level s depth, 10 * s.length + 8 < depth →
      Bounded.read depth level s = some (read level s)) ∧
    ∀ source depth, 10 * source.length + 8 < depth →
      Bounded.parse depth source = some (parse source) := by
  refine ⟨fun level s e rest h => consumes_of_read h, chain_loops, readSteps_loops,
    readMoreItems_loops, readItems_eq, fun mark s hmark => quoted?_closingByte? hmark s,
    fun source source' left h => parse_leftover h, fun level s depth hdepth => ?_,
    fun source depth hdepth => Bounded.parse_eq hdepth⟩
  have hrank := level.rank_le
  exact (Bounded.agrees depth).read (by omega)

/-- A quotation with a character of two bytes, and a bracket that is left over after it. -/
theorem readers_progress_bracket :
    read .primary "'é' )".toList = .ok (.literal (.str "é"), " )".toList) ∧
    Consumes "'é' )".toList " )".toList ∧
    closingByte? '\'' "é' )".toList = some 2 ∧ CutAtByte "'é' )".toList 4 " )".toList ∧
    parse "'é' )" = .error (.leftover "'é' )" ")") ∧
    ∃ used, used ≠ "" ∧ "'é' )" = used ++ ")" := by
  obtain ⟨hread, -, -, -, -, hquoted, hleft, hdepth, hparse⟩ := readers_progress
  have hprimary : read .primary "'é' )".toList = .ok (.literal (.str "é"), " )".toList) :=
    Option.some.inj ((hdepth .primary _ 60 (by decide)).symm.trans rfl)
  have hleftover : parse "'é' )" = .error (.leftover "'é' )" ")") :=
    Option.some.inj ((hparse _ 60 (by decide)).symm.trans rfl)
  have hcut : CutAtByte "'é' )".toList 4 " )".toList := by
    rcases hquoted '\'' "é' )".toList (.inl rfl) with ⟨hbyte, -⟩ | ⟨n, t, rest, hbyte, hread, hcut⟩
    · cases hbyte
    · cases hbyte
      cases hread
      exact hcut
  exact ⟨hprimary, hread _ _ _ _ hprimary, rfl, hcut, hleftover, (hleft _ _ _ hleftover).2.2⟩

end SeriesQuery.Expr
