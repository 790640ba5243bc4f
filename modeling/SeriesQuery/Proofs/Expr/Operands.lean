import SeriesQuery.Proofs.Expr.Levels
import SeriesQuery.Proofs.Expr.Places
import SeriesQuery.Proofs.Expr.Produced

/-!
# What stands where operands are read

Every variable of an expression stands in its text where an operand may come, and is no constant.
So a word that stands between operands is a variable only where it stands in the place of one, as in
`a AND NOT`.
-/

namespace SeriesQuery.Expr

open Token

mutual
/-- The variables that the paths of an expression start with, in order. -/
def roots : Expr → List String
  | literal _ => []
  | array items => itemsRoots items
  | path root steps => root :: stepsRoots steps
  | call _ args => itemsRoots args
  | not e => roots e
  | neg e => roots e
  | binary _ left right => roots left ++ roots right

/-- The variables of items. -/
def itemsRoots : List Expr → List String
  | [] => []
  | e :: es => roots e ++ itemsRoots es

/-- The variables of steps. -/
def stepsRoots : List Step → List String
  | [] => []
  | .key _ :: steps => stepsRoots steps
  | .index e :: steps => roots e ++ stepsRoots steps
end

/-- A variable stands in a text where an operand may come, as a whole word that is no constant. -/
structure StandsIn (source : List Char) (root : String) : Prop where
  word : word? root.toList = some (root.toList, [])
  not_constant : ¬IsConstant root.toList
  place : ∃ after, OperandAt source (root.toList ++ after) ∧
    ∀ c ∈ after.head?, isWordChar c = false

/-- All variables of an expression stand in a text. -/
def Placed (source : List Char) (e : Expr) : Prop := ∀ root ∈ roots e, StandsIn source root

section Placed

variable {source : List Char}

/-- The variables of items. -/
theorem mem_itemsRoots {items : List Expr} {root : String} :
    root ∈ itemsRoots items ↔ ∃ e ∈ items, root ∈ roots e := by
  induction items with
  | nil => simp [itemsRoots]
  | cons e items ih => simp [itemsRoots, ih]

/-- The variables of steps. -/
theorem mem_stepsRoots {steps : List Step} {root : String} :
    root ∈ stepsRoots steps ↔ ∃ e, .index e ∈ steps ∧ root ∈ roots e := by
  induction steps with
  | nil => simp [stepsRoots]
  | cons step steps ih =>
      cases step with
      | key name => simp [stepsRoots, ih]
      | index e => simp [stepsRoots, ih, or_and_right, exists_or]

/-- A constant has no variables. -/
theorem Placed.literal (v : Json) : Placed source (.literal v) := by
  intro root hroot
  cases hroot

/-- The variables of an array are those of its items. -/
theorem Placed.array {items : List Expr} (h : ∀ e ∈ items, Placed source e) :
    Placed source (.array items) := by
  intro root hroot
  obtain ⟨e, he, hroot⟩ := mem_itemsRoots.1 hroot
  exact h e he root hroot

/-- The variables of a call are those of its arguments. -/
theorem Placed.call {args : List Expr} (f : Function) (h : ∀ e ∈ args, Placed source e) :
    Placed source (.call f args) := by
  intro root hroot
  obtain ⟨e, he, hroot⟩ := mem_itemsRoots.1 hroot
  exact h e he root hroot

/-- The variables of a path are its root and those of its steps. -/
theorem Placed.path {root : String} {steps : List Step} (hroot : StandsIn source root)
    (h : ∀ e, .index e ∈ steps → Placed source e) : Placed source (.path root steps) := by
  intro other hother
  rcases List.mem_cons.1 hother with rfl | hother
  · exact hroot
  · obtain ⟨e, he, hother⟩ := mem_stepsRoots.1 hother
    exact h e he other hother

/-- The variables of an operation are those of its operands. -/
theorem Placed.binary {left right : Expr} (op : Operator) (hleft : Placed source left)
    (hright : Placed source right) : Placed source (.binary op left right) := by
  intro root hroot
  rcases List.mem_append.1 hroot with hroot | hroot
  · exact hleft root hroot
  · exact hright root hroot

end Placed

/-- What is read at an operand, if anything, has its variables in place, and the text is cut after
it. -/
def ReadsPlaced (source s : List Char) (r : Reading Expr) : Prop :=
  ∀ e rest, r = .ok (e, rest) → OperandAt source s → CutAt source rest ∧ Placed source e

/-- Nothing is read where the reader fails. -/
theorem ReadsPlaced.error (source s left : List Char) : ReadsPlaced source s (.error left) := by
  intro e rest h
  cases h

/-- A word that is a variable stands where an operand is read. -/
theorem standsIn_word {source s word rest : List Char} (hs : OperandAt source s)
    (hword : word? s = some (word, rest)) (hconstant : ¬IsConstant word) :
    StandsIn source (String.ofList word) := by
  obtain ⟨rfl, hself, hrest⟩ := word?_eq hword
  refine ⟨?_, ?_, rest, ?_, hrest⟩
  · rw [String.toList_ofList]
    exact hself
  · rw [String.toList_ofList]
    exact hconstant
  · rw [String.toList_ofList]
    exact hs

/-- All readers together find operands only where they may come. The induction is that of the
readers themselves, and the order of the conjuncts is theirs: expressions, steps, calls, items,
further items, chains. -/
theorem placed_readers (source : List Char) :
    (∀ level s, ReadsPlaced source s (read level s)) ∧
    (∀ s, CutAt source s → CutAt source (readSteps s).2 ∧
      ∀ e, .index e ∈ (readSteps s).1 → Placed source e) ∧
    (∀ f s e rest, readCall f s = some (e, rest) → CutAt source s →
      CutAt source rest ∧ Placed source e) ∧
    (∀ s, OperandAt source s → (readItems s).2 <:+ source ∧
      ∀ e ∈ (readItems s).1, Placed source e) ∧
    (∀ s, s <:+ source → (readMoreItems s).2 <:+ source ∧
      ∀ e ∈ (readMoreItems s).1, Placed source e) ∧
    ∀ level operand left s e rest, chain level operand left s = .ok (e, rest) →
      CutAt source s → Placed source left → CutAt source rest ∧ Placed source e := by
  apply read.mutual_induct_unfolding (fun _ s r => ReadsPlaced source s r)
    (fun s _ => CutAt source s → CutAt source (readSteps s).2 ∧
      ∀ e, .index e ∈ (readSteps s).1 → Placed source e)
    (fun f s _ => ∀ e rest, readCall f s = some (e, rest) → CutAt source s →
      CutAt source rest ∧ Placed source e)
    (fun s _ => OperandAt source s → (readItems s).2 <:+ source ∧
      ∀ e ∈ (readItems s).1, Placed source e)
    (fun s _ => s <:+ source → (readMoreItems s).2 <:+ source ∧
      ∀ e ∈ (readMoreItems s).1, Placed source e)
    (fun level operand left s _ => ∀ e rest, chain level operand left s = .ok (e, rest) →
      CutAt source s → Placed source left → CutAt source rest ∧ Placed source e)
  all_goals intros
  -- readers that fail, and those that hand over to a tighter level
  all_goals try exact ReadsPlaced.error _ _ _
  all_goals try assumption
  -- the first operand of a chain, with more of them and alone
  case case2 hread _ ih hchain | case5 hread _ ih hchain | case16 hread _ ih hchain |
      case19 hread _ ih hchain =>
    intro e rest h hs
    obtain ⟨hcut, hfirst⟩ := ih _ _ hread hs
    exact hchain e rest h hcut hfirst
  case case3 hread _ ih | case6 hread _ ih | case17 hread _ ih | case20 hread _ ih =>
    rintro e rest ⟨⟩ hs
    exact ih _ _ hread hs
  -- operands after a sign
  case case7 hsign _ _ _ hread ih =>
    rintro e rest ⟨⟩ hs
    obtain ⟨hcut, hplaced⟩ := ih _ _ hread (operandAt_negation hsign hs.cutAt)
    exact ⟨hcut, hplaced⟩
  case case21 hsign _ _ _ hread ih =>
    rintro e rest ⟨⟩ hs
    obtain ⟨hcut, hplaced⟩ := ih _ _ hread (operandAt_minus hsign hs.cutAt.suffix)
    exact ⟨hcut, hplaced⟩
  -- a comparison, or its left side alone
  case case13 hleft _ _ hop _ _ _ hright ih ih' =>
    rintro e rest ⟨⟩ hs
    obtain ⟨hcut, hplaced⟩ := ih _ _ hleft hs
    obtain ⟨hend, hplaced'⟩ := ih' _ _ hright (operandAt_operator hop hcut.skip).skip
    exact ⟨hend, hplaced.binary _ hplaced'⟩
  case case11 hread _ ih | case14 hread _ _ _ _ ih =>
    rintro e rest ⟨⟩ hs
    exact ih _ _ hread hs
  -- brackets
  case case25 hitems _ hclosing ih =>
    rintro e rest ⟨⟩ hs
    have hfirst := (operandAt_sign (by decide) hs.cutAt.suffix).skip
    rw [hitems] at ih
    obtain ⟨hsuffix, hplaced⟩ := ih hfirst
    exact ⟨cutAt_closing (by decide) (by decide) hclosing hsuffix, .array hplaced⟩
  case case27 hread _ hclosing _ ih =>
    rintro e rest ⟨⟩ hs
    obtain ⟨hcut, hplaced⟩ := ih _ _ hread (operandAt_sign (by decide) hs.cutAt.suffix).skip
    exact ⟨cutAt_closing (by decide) (by decide) hclosing hcut.suffix, hplaced⟩
  -- constants
  case case30 hnumber =>
    rintro e rest ⟨⟩ hs
    exact ⟨cutAt_number hnumber hs.cutAt.suffix, .literal _⟩
  case case32 hquoted =>
    rintro e rest ⟨⟩ hs
    exact ⟨cutAt_quoted hquoted hs.cutAt.suffix, .literal _⟩
  case case35 hword _ _ | case36 hword _ _ _ | case37 hword _ _ _ _ =>
    rintro e rest ⟨⟩ hs
    exact ⟨cutAt_word hword hs.cutAt.suffix, .literal _⟩
  -- words
  case case38 hword _ _ _ _ _ _ hcall ih =>
    rintro e rest ⟨⟩ hs
    obtain ⟨f, -, hread⟩ := Option.bind_eq_some_iff.1 hcall
    exact ih f _ _ hread (cutAt_word hword hs.cutAt.suffix)
  case case39 hword _ htrue hfalse hnull _ _ _ hsteps _ ih =>
    rintro e rest ⟨⟩ hs
    rw [hsteps] at ih
    obtain ⟨hcut, hplaced⟩ := ih (cutAt_word hword hs.cutAt.suffix)
    have hconstant : ¬IsConstant _ := fun h => h.elim htrue fun h => h.elim hfalse hnull
    exact ⟨hcut, .path (standsIn_word hs hword hconstant) hplaced⟩
  -- steps: none, by name, by index
  case case40 hname hs => simpa [readSteps, hname] using hs
  case case43 hread _ hs => simpa [readSteps, hread] using hs
  case case44 hread hclosing _ hs => simpa [readSteps, hread, hclosing] using hs
  case case47 hdot hbracket hs => simpa [readSteps] using hs
  case case41 hname hle _ _ hsteps ih hs =>
    rw [hsteps] at ih
    have hcut := cutAt_stepName hname ((List.suffix_cons _ _).trans hs.suffix)
    simpa [readSteps, hname, hle, hsteps] using ih hcut
  case case42 hname hle hs =>
    have hcut := cutAt_stepName hname ((List.suffix_cons _ _).trans hs.suffix)
    simpa [readSteps, hname, hle] using hcut
  case case45 hread _ hclosing hle _ _ hsteps ih ih' hs =>
    rw [hsteps] at ih'
    obtain ⟨hcut, hplaced⟩ := ih _ _ hread (operandAt_sign (by decide) hs.suffix).skip
    obtain ⟨hend, hmore⟩ := ih' (cutAt_closing (by decide) (by decide) hclosing hcut.suffix)
    simp only [readSteps, hread, hclosing, hle, ↓reduceIte, hsteps, List.mem_cons,
      Step.index.injEq]
    refine ⟨hend, ?_⟩
    rintro e (rfl | hmem)
    · exact hplaced
    · exact hmore e hmem
  case case46 hread _ hclosing hle ih hs =>
    obtain ⟨hcut, hplaced⟩ := ih _ _ hread (operandAt_sign (by decide) hs.suffix).skip
    simp only [readSteps, hread, hclosing, hle, ↓reduceIte, List.mem_singleton,
      Step.index.injEq]
    refine ⟨cutAt_closing (by decide) (by decide) hclosing hcut.suffix, ?_⟩
    rintro e rfl
    exact hplaced
  -- calls
  case case48 hopening _ _ _ hitems ih e _ hcall hs =>
    rw [hitems] at ih
    obtain ⟨hsuffix, hplaced⟩ := ih (operandAt_opening (by decide) hopening hs.suffix)
    rw [readCall_eq, hopening, Option.bind_some, hitems] at hcall
    obtain ⟨rest, hclosing, hcall⟩ := Option.map_eq_some_iff.1 hcall
    cases hcall
    exact ⟨cutAt_closing (by decide) (by decide) hclosing hsuffix, .call _ hplaced⟩
  case case49 hopening e _ hcall _ => simp [readCall_eq, hopening] at hcall
  -- items
  case case50 hread _ hs => simpa [readItems, hread] using hs.cutAt.suffix
  case case51 hread hlt _ _ hmore ih ih' hs =>
    obtain ⟨hcut, hplaced⟩ := ih _ _ hread hs
    obtain ⟨hsuffix, hplaced'⟩ := ih' hcut.suffix
    simp only [readItems, hread, hlt, ↓reduceIte]
    exact ⟨hsuffix, List.forall_mem_cons.2 ⟨hplaced, hplaced'⟩⟩
  case case52 hread hlt ih hs =>
    obtain ⟨hcut, hplaced⟩ := ih _ _ hread hs
    simp only [readItems, hread, hlt, ↓reduceIte]
    exact ⟨hcut.suffix, List.forall_mem_singleton.2 hplaced⟩
  case case53 hcomma hs => simpa [readMoreItems, hcomma] using hs
  case case54 hcomma hlt _ hread _ hs => simpa [readMoreItems, hcomma, hlt, hread] using hs
  case case57 hcomma hlt hs => simpa [readMoreItems, hcomma, hlt] using hs
  case case55 hcomma hlt _ _ hread hlt' _ _ hmore ih ih' hs =>
    obtain ⟨hcut, hplaced⟩ := ih _ _ hread (operandAt_comma hcomma hs)
    obtain ⟨hsuffix, hplaced'⟩ := ih' hcut.suffix
    rw [readMoreItems]
    simp only [hcomma, hlt, ↓reduceIte, hread, hlt']
    exact ⟨hsuffix, List.forall_mem_cons.2 ⟨hplaced, hplaced'⟩⟩
  case case56 hcomma hlt _ _ hread hlt' ih hs =>
    obtain ⟨hcut, hplaced⟩ := ih _ _ hread (operandAt_comma hcomma hs)
    simp only [readMoreItems, hcomma, hlt, ↓reduceIte, hread, hlt']
    exact ⟨hcut.suffix, List.forall_mem_singleton.2 hplaced⟩
  -- chains: the left side alone, and with an operator after it
  case case58 hnone e rest h hs hleft =>
    rw [chain, hnone] at h
    cases h
    exact ⟨hs, hleft⟩
  case case59 hop hlt _ hread _ e rest h hs hleft =>
    rw [chain, hop] at h
    simp only [hlt, ↓reduceIte, hread] at h
    cases h
  case case60 hop hlt _ _ hread hlt' ih ih' e rest h hs hleft =>
    rw [chain, hop] at h
    simp only [hlt, ↓reduceIte, hread, hlt'] at h
    obtain ⟨hcut, hright⟩ := ih _ _ hread (operandAt_operator hop hs.skip).skip
    exact ih' e rest h hcut (hleft.binary _ hright)
  case case61 hop hlt _ _ hread hlt' ih e rest h hs hleft =>
    rw [chain, hop] at h
    simp only [hlt, ↓reduceIte, hread, hlt'] at h
    cases h
    obtain ⟨hcut, hright⟩ := ih _ _ hread (operandAt_operator hop hs.skip).skip
    exact ⟨hcut, hleft.binary _ hright⟩
  case case62 hop hlt e rest h hs hleft =>
    rw [chain, hop] at h
    simp only [hlt, ↓reduceIte] at h
    cases h
    exact ⟨hs, hleft⟩

/-- The variables of an expression stand in its text. -/
theorem placed_of_parse {source : String} {e : Expr} (h : parse source = .ok e) :
    Placed source.toList e := by
  obtain ⟨rest, hread, -⟩ := read_of_parse h
  exact ((placed_readers source.toList).1 _ _ _ _ hread (OperandAt.start source.toList).skip).2

end SeriesQuery.Expr
