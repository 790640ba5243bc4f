import SeriesQuery.Expr.Parser

/-!
# What texts are read as

Only some trees are expressions that a text can be read as: the parser writes no constants but the
numbers, quoted texts and constant words it reads, and a path starts with a word. `Produced` says
which trees these are, and `produced_of_parse` that the parser makes no others.
-/

namespace SeriesQuery.Expr

open Token

/-- The trees that texts are read as. -/
inductive Produced : Expr → Prop where
  /-- A number as it is read. -/
  | number {s rest : List Char} {n : Number} (h : number? s = some (n, rest)) :
      Produced (.literal (.num n))
  /-- A quoted text. -/
  | text (t : String) : Produced (.literal (.str t))
  /-- A truth value. -/
  | bool (b : Bool) : Produced (.literal (.bool b))
  /-- The constant null. -/
  | null : Produced (.literal .null)
  /-- An array. -/
  | array {items : List Expr} (h : ∀ e ∈ items, Produced e) : Produced (.array items)
  /-- A word and the steps after it. -/
  | path {s word rest : List Char} {steps : List Step} (hword : word? s = some (word, rest))
      (h : ∀ e, .index e ∈ steps → Produced e) : Produced (.path (String.ofList word) steps)
  /-- A call. -/
  | call {args : List Expr} (f : Function) (h : ∀ e ∈ args, Produced e) : Produced (.call f args)
  /-- A negation. -/
  | not {e : Expr} (h : Produced e) : Produced (.not e)
  /-- An opposite number. -/
  | neg {e : Expr} (h : Produced e) : Produced (.neg e)
  /-- An operation on two operands. -/
  | binary {left right : Expr} (op : Operator) (hleft : Produced left) (hright : Produced right) :
      Produced (.binary op left right)

/-- What is read, if anything, is produced. -/
def ReadsProduced (r : Reading Expr) : Prop := ∀ e rest, r = .ok (e, rest) → Produced e

/-- Nothing is read where the reader fails. -/
theorem ReadsProduced.error (s : List Char) : ReadsProduced (.error s) := by
  intro e rest h
  cases h

/-- The tree that is read. -/
theorem ReadsProduced.ok {e : Expr} {rest : List Char} (h : Produced e) :
    ReadsProduced (.ok (e, rest)) := by
  rintro e rest ⟨⟩
  exact h

/-- A call is read as its function and the items in its parentheses. -/
theorem readCall_eq (f : Function) (s : List Char) :
    readCall f s = (opening? '(' s).bind fun after =>
      (closing? ')' (readItems after).2).map (.call f (readItems after).1, ·) := by
  rw [readCall]
  split
  · next after h => simp only [h, Option.bind_some]
  · next h => rw [h, Option.bind_none]

/-- All readers together make produced trees only. The induction is that of the readers themselves,
and the order of the conjuncts is theirs: expressions, steps, calls, items, further items, chains. -/
theorem produced_readers :
    (∀ level s, ReadsProduced (read level s)) ∧
    (∀ s e, .index e ∈ (readSteps s).1 → Produced e) ∧
    (∀ f s e rest, readCall f s = some (e, rest) → Produced e) ∧
    (∀ s, ∀ e ∈ (readItems s).1, Produced e) ∧
    (∀ s, ∀ e ∈ (readMoreItems s).1, Produced e) ∧
    ∀ level operand left s, Produced left → ReadsProduced (chain level operand left s) := by
  apply read.mutual_induct_unfolding (fun _ _ r => ReadsProduced r)
    (fun s _ => ∀ e, .index e ∈ (readSteps s).1 → Produced e)
    (fun f s _ => ∀ e rest, readCall f s = some (e, rest) → Produced e)
    (fun s _ => ∀ e ∈ (readItems s).1, Produced e)
    (fun s _ => ∀ e ∈ (readMoreItems s).1, Produced e)
    (fun level operand left s _ => Produced left → ReadsProduced (chain level operand left s))
  all_goals intros
  -- readers that fail, and those that hand over to a tighter level
  all_goals try exact ReadsProduced.error _
  all_goals try assumption
  -- the first operand of a chain, with more of them and alone
  case case2 hread _ ih hchain | case5 hread _ ih hchain | case16 hread _ ih hchain |
      case19 hread _ ih hchain => exact hchain (ih _ _ hread)
  case case3 hread _ ih | case6 hread _ ih | case17 hread _ ih | case20 hread _ ih =>
    exact .ok (ih _ _ hread)
  -- operands after a sign
  case case7 hread ih => exact .ok (.not (ih _ _ hread))
  case case21 hread ih => exact .ok (.neg (ih _ _ hread))
  -- a comparison, or its left side alone
  case case13 hleft _ _ _ _ _ _ hright ih ih' => exact .ok (.binary _ (ih _ _ hleft) (ih' _ _ hright))
  case case11 hread _ ih | case14 hread _ _ _ _ ih => exact .ok (ih _ _ hread)
  -- brackets
  case case25 hitems _ _ ih =>
    rw [hitems] at ih
    exact .ok (.array ih)
  case case27 hread _ _ _ ih => exact .ok (ih _ _ hread)
  -- constants
  case case30 h => exact .ok (.number h)
  case case32 h => exact .ok (.text _)
  case case35 => exact .ok (.bool true)
  case case36 => exact .ok (.bool false)
  case case37 => exact .ok .null
  -- words
  case case38 hcall ih =>
    obtain ⟨f, -, hread⟩ := Option.bind_eq_some_iff.1 hcall
    exact .ok (ih f _ _ hread)
  case case39 hword _ _ _ _ _ _ _ hsteps _ ih =>
    rw [hsteps] at ih
    exact .ok (.path hword ih)
  -- steps: none, by name, by index
  case case40 hname e hmem => simp [readSteps, hname] at hmem
  case case43 hread _ e hmem => simp [readSteps, hread] at hmem
  case case44 hread hclosing _ e hmem => simp [readSteps, hread, hclosing] at hmem
  case case47 hdot hbracket e hmem => simp [readSteps] at hmem
  case case41 hname hle _ _ hsteps ih e hmem =>
    rw [hsteps] at ih
    simp only [readSteps, hname, hle, ↓reduceIte, hsteps, List.mem_cons, reduceCtorEq,
      false_or] at hmem
    exact ih e hmem
  case case42 hname hle e hmem => simp [readSteps, hname, hle] at hmem
  case case45 hread _ hclosing hle _ _ hsteps ih ih' e hmem =>
    rw [hsteps] at ih'
    simp only [readSteps, hread, hclosing, hle, ↓reduceIte, hsteps, List.mem_cons,
      Step.index.injEq] at hmem
    rcases hmem with rfl | hmem
    · exact ih _ _ hread
    · exact ih' e hmem
  case case46 hread _ hclosing hle ih e hmem =>
    simp only [readSteps, hread, hclosing, hle, ↓reduceIte, List.mem_singleton,
      Step.index.injEq] at hmem
    exact hmem ▸ ih _ _ hread
  -- calls
  case case48 hopening _ _ _ hitems ih e _ hcall =>
    rw [hitems] at ih
    rw [readCall_eq, hopening, Option.bind_some, hitems] at hcall
    obtain ⟨rest, -, hcall⟩ := Option.map_eq_some_iff.1 hcall
    cases hcall
    exact .call _ ih
  case case49 hopening e _ hcall => simp [readCall_eq, hopening] at hcall
  -- items
  case case50 hread _ e hmem => simp [readItems, hread] at hmem
  case case51 hread hlt _ _ hmore ih ih' e hmem =>
    rw [hmore] at ih'
    simp only [readItems, hread, hlt, ↓reduceIte, hmore, List.mem_cons] at hmem
    rcases hmem with rfl | hmem
    · exact ih _ _ hread
    · exact ih' e hmem
  case case52 hread hlt ih e hmem =>
    simp only [readItems, hread, hlt, ↓reduceIte, List.mem_singleton] at hmem
    exact hmem ▸ ih _ _ hread
  case case53 hcomma e hmem => simp [readMoreItems, hcomma] at hmem
  case case54 hcomma hlt _ hread _ e hmem => simp [readMoreItems, hcomma, hlt, hread] at hmem
  case case57 hcomma hlt e hmem => simp [readMoreItems, hcomma, hlt] at hmem
  case case55 hcomma hlt _ _ hread hlt' _ _ hmore ih ih' e hmem =>
    rw [hmore] at ih'
    simp only [readMoreItems, hcomma, hlt, ↓reduceIte, hread, hlt', hmore, List.mem_cons] at hmem
    rcases hmem with rfl | hmem
    · exact ih _ _ hread
    · exact ih' e hmem
  case case56 hcomma hlt _ _ hread hlt' ih e hmem =>
    simp only [readMoreItems, hcomma, hlt, ↓reduceIte, hread, hlt', List.mem_singleton] at hmem
    exact hmem ▸ ih _ _ hread
  -- chains: the left side alone, and with an operator after it
  case case58 hnone hleft =>
    rw [chain, hnone]
    exact .ok hleft
  case case59 hop hlt _ hread _ _ =>
    rw [chain, hop]
    simp only [hlt, ↓reduceIte, hread]
    exact .error _
  case case60 hop hlt _ _ hread hlt' ih ih' hleft =>
    rw [chain, hop]
    simp only [hlt, ↓reduceIte, hread, hlt']
    exact ih' (.binary _ hleft (ih _ _ hread))
  case case61 hop hlt _ _ hread hlt' ih hleft =>
    rw [chain, hop]
    simp only [hlt, ↓reduceIte, hread, hlt']
    exact .ok (.binary _ hleft (ih _ _ hread))
  case case62 hop hlt hleft =>
    rw [chain, hop]
    simp only [hlt, ↓reduceIte]
    exact .ok hleft

/-- A text is read as a tree where nothing but spaces comes after it. -/
theorem read_of_parse {source : String} {e : Expr} (h : parse source = .ok e) :
    ∃ rest, read .disjunction (skip source.toList) = .ok (e, rest) ∧ skip rest = [] := by
  rw [parse] at h
  cases hread : read .disjunction (skip source.toList) with
  | error rest =>
      rw [hread] at h
      cases h
  | ok result =>
      obtain ⟨e', rest⟩ := result
      rw [hread] at h
      cases hrest : skip rest with
      | nil =>
          simp only [hrest] at h
          cases h
          exact ⟨rest, rfl, hrest⟩
      | cons c left =>
          simp only [hrest] at h
          cases h

/-- A text is read as a produced tree. -/
theorem produced_of_parse {source : String} {e : Expr} (h : parse source = .ok e) : Produced e := by
  obtain ⟨rest, hread, -⟩ := read_of_parse h
  exact produced_readers.1 _ _ _ _ hread

end SeriesQuery.Expr
