import SeriesQuery.Expr.Eval
import SeriesQuery.Proofs.Expr.RoundTrip
import SeriesQuery.Proofs.Template.Scan

/-!
# Paths of templates as expressions

A dotted path may fill a slot of a template, and it may be an expression. The walk for slots stops
where a step leads nowhere, and the walk for expressions goes on from null there.
`Path.eval_expression` says that an expression gives what the slot is filled from, and null exactly
if this is null or there is nothing.
-/

namespace SeriesQuery

namespace Path

/-- The path as an expression. -/
def expression (p : Path) : Expr := .path p.root (p.steps.map .key)

/-- The path with further steps. -/
def below (p : Path) (steps : List String) : Path := ⟨p.root, p.steps ++ steps⟩

/-- A number in digits after zeros, as a step. -/
def numeral (zeros n : ℕ) : String := String.ofList (List.replicate zeros '0' ++ Nat.toDigits 10 n)

/-- No steps lead to the value itself. -/
@[simp] theorem descend?_nil (v : Json) : descend? v [] = some v := by
  cases v <;> rfl

/-- Steps lead where the later ones lead from where the earlier ones do. -/
theorem descend?_append (v : Json) (steps more : List String) :
    descend? v (steps ++ more) = (descend? v steps).bind (descend? · more) := by
  fun_induction descend? v steps with
  | case1 v => rfl
  | case2 fields step steps ih =>
      rw [List.cons_append, descend?]
      cases Dict.get? fields step with
      | none => rfl
      | some w => exact ih w
  | case3 items step steps ih =>
      rw [List.cons_append, descend?]
      cases index? step with
      | none => rfl
      | some i =>
          cases hitem : items[i]? with
          | none => simp [hitem]
          | some w => simpa [hitem] using ih w
  | case4 v step steps hobj harr =>
      rw [List.cons_append, descend?]
      · rfl
      · exact hobj
      · exact harr

end Path

namespace Expr

variable (scope : Fields)

/-- What an expression takes in one step is what a path leads to in one step, or null. -/
theorem access_key (v : Json) (step : String) :
    v.access (.str step) = (Path.descend? v [step]).getD .null := by
  cases v with
  | obj fields =>
      cases hfield : Dict.get? fields step <;> simp [Json.access, Path.descend?, hfield]
  | arr items =>
      rw [Json.access, Path.descend?, Path.index?]
      cases Text.parseBelow? UInt64.size step.toList with
      | none => rfl
      | some i => cases hitem : items[i]? <;> simp [hitem]
  | _ => rfl

/-- From null steps lead to null. -/
theorem evalSteps_null (steps : List String) : evalSteps scope .null (steps.map .key) = .null := by
  induction steps with
  | nil => rfl
  | cons step steps ih => exact ih

/-- The steps of an expression lead where those of a path do, or to null. -/
theorem evalSteps_key (v : Json) (steps : List String) :
    evalSteps scope v (steps.map .key) = (Path.descend? v steps).getD .null := by
  induction steps generalizing v with
  | nil => rw [Path.descend?_nil]; rfl
  | cons step steps ih =>
      have hsplit : Path.descend? v (step :: steps) =
          (Path.descend? v [step]).bind (Path.descend? · steps) :=
        Path.descend?_append v [step] steps
      rw [List.map_cons, evalSteps, access_key, hsplit]
      -- one walk has stopped where the step leads nowhere, and the other goes on from null
      cases Path.descend? v [step] with
      | none => exact evalSteps_null scope steps
      | some w => exact ih w

end Expr

namespace Path

section Text

variable {p : Path}

/-- The steps are written in the same way in a template and in an expression. -/
theorem text_expression (p : Path) : p.expression.text = p.text := by
  have hsteps (steps : List String) : Expr.stepsText (steps.map .key) = stepsText steps := by
    induction steps with
    | nil => rfl
    | cons step steps ih =>
        rw [List.map_cons, Expr.stepsText, ih]
        rfl
  rw [expression, Expr.text, hsteps, text]

/-- What starts a path starts a word. -/
theorem isWordStart_of_startsName {c : Char} (h : StartsName c) : Token.isWordStart c = true := by
  have hascii : c.toNat < 128 := by
    have := (toNat_bounds (.inl (.inl h))).2
    omega
  rw [Token.isWordStart, Text.isLetter, if_pos hascii]
  exact isNameStart_iff.2 h

/-- What goes on a name goes on a word. -/
theorem isWordChar_of_inName {c : Char} (h : InName c) : Token.isWordChar c = true := by
  rcases h with h | h
  · exact Token.isWordChar_of_start (isWordStart_of_startsName h)
  · exact Text.isWordChar_of_digit (by simpa [Text.isAsciiDigit] using h)

/-- A dotted path whose root is no keyword has a text as an expression. -/
theorem IsDotted.writable (hp : p.IsDotted)
    (hroot : ∀ word ∈ Expr.reservedWords, Token.isKeyword word p.root.toList = false) :
    p.expression.Writable := by
  have hsteps (steps : List String) (h : ∀ step ∈ steps, IsStep step) :
      Expr.WritableSteps (steps.map .key) := by
    induction steps with
    | nil => trivial
    | cons step steps ih =>
        obtain ⟨⟨hne, hchars⟩, hmore⟩ := List.forall_mem_cons.1 h
        exact ⟨⟨hne, List.all_eq_true.2 fun c hc => isWordChar_of_inName (hchars c hc)⟩, ih hmore⟩
  refine ⟨⟨?_, hroot⟩, hsteps p.steps hp.steps⟩
  obtain ⟨c, cs, hword, hstart, hcs⟩ := hp.root
  have hall : cs.all Token.isWordChar = true :=
    List.all_eq_true.2 fun c hc => isWordChar_of_inName (hcs c hc)
  rw [hword, Token.word?_of_all (isWordStart_of_startsName hstart) hall]

/-- A dotted path whose root is no keyword is read as its expression. -/
theorem IsDotted.parse_expression (hp : p.IsDotted)
    (hroot : ∀ word ∈ Expr.reservedWords, Token.isKeyword word p.root.toList = false) :
    Expr.parse (String.ofList p.text) = .ok p.expression := by
  refine Expr.parse_of_toList (hp.writable hroot) ?_
  rw [String.toList_ofList, text_expression]

/-- A dotted path between braces is a template, which is filled with the text of its value. -/
theorem IsDotted.fill_slot (hp : p.IsDotted) (bindings : Fields) :
    Template.fill (String.ofList (Template.opening ++ p.text ++ Template.closing)) bindings =
      .ok ((p.lookup? bindings).getD .null).display := by
  have hslot : Template.IsSlot (Template.opening ++ p.text ++ Template.closing) p :=
    ⟨hp, [], [], List.forall_mem_nil _, List.forall_mem_nil _, by simp⟩
  rw [Template.fill, hslot.parse_ofList]
  cases hvalue : p.lookup? bindings <;>
    simp [Except.map, Template.render, Template.renderPiece, hvalue, Json.display]

end Text

variable (p : Path) (bindings : Fields)

/-- A path has the same value in an expression as in a template, or null where it has none there. -/
theorem eval_eq_getD_lookup? : p.expression.eval bindings = (p.lookup? bindings).getD .null := by
  rw [expression, Expr.eval, lookup?]
  cases Dict.get? bindings p.root with
  | none => exact Expr.evalSteps_null bindings p.steps
  | some v => exact Expr.evalSteps_key bindings v p.steps

/-- Further steps go on from where a path leads. -/
theorem lookup?_below (steps : List String) :
    (p.below steps).lookup? bindings = (p.lookup? bindings).bind (descend? · steps) := by
  rw [lookup?, lookup?, below]
  cases Dict.get? bindings p.root with
  | none => rfl
  | some v => exact descend?_append v p.steps steps

/-- Digits lead to the item at their number, also after zeros. -/
theorem descend?_numeral (items : List Json) (zeros n : ℕ) (steps : List String) :
    descend? (.arr items) (numeral zeros n :: steps) =
      (if n < 2 ^ 64 then items[n]? else none).bind (descend? · steps) := by
  have hindex : index? (numeral zeros n) = if n < 2 ^ 64 then some n else none := by
    rw [index?, numeral, String.toList_ofList, Text.parseBelow?_toDigits]
    rfl
  rw [descend?, hindex]
  by_cases hn : n < 2 ^ 64
  · rw [if_pos hn, if_pos hn]
    rfl
  · rw [if_neg hn, if_neg hn]
    rfl

/-- A path has the same value in an expression as in a template: it gives the value that it leads
to, and null exactly if it leads to null or nowhere. Digits lead to the item of an array at their
number, also after zeros, and nowhere past its end. Where the root of a dotted path is no keyword,
the text of the path is read as this expression, and the path between braces is filled with the text
of its value. -/
theorem eval_expression :
    p.expression.eval bindings = (p.lookup? bindings).getD .null ∧
    (p.expression.eval bindings = .null ↔
      p.lookup? bindings = none ∨ p.lookup? bindings = some .null) ∧
    (∀ v, p.Reaches bindings v → p.expression.eval bindings = v) ∧
    (∀ items zeros n steps, p.Reaches bindings (.arr items) →
      (p.below (numeral zeros n :: steps)).expression.eval bindings =
        ((if n < 2 ^ 64 then items[n]? else none).bind (descend? · steps)).getD .null) ∧
    (p.IsDotted →
      Template.fill (String.ofList (Template.opening ++ p.text ++ Template.closing)) bindings =
        .ok (p.expression.eval bindings).display ∧
      ((∀ word ∈ Expr.reservedWords, Token.isKeyword word p.root.toList = false) →
        Expr.parse (String.ofList p.text) = .ok p.expression)) := by
  have heval := eval_eq_getD_lookup? p bindings
  refine ⟨heval, ?_, ?_, ?_, ?_⟩
  · rw [heval]
    cases p.lookup? bindings <;> simp
  · intro v hv
    rw [heval, lookup?_eq_some_iff.2 hv]
    rfl
  · intro items zeros n steps hitems
    rw [eval_eq_getD_lookup?, lookup?_below, lookup?_eq_some_iff.2 hitems, Option.bind_some,
      descend?_numeral]
  · intro hp
    rw [heval]
    exact ⟨hp.fill_slot bindings, hp.parse_expression⟩

/-- Zeros before a position do not change it, and past the end there is null. -/
theorem eval_expression_zeros :
    (⟨"a", []⟩ : Path).Reaches [("a", .arr [.null, .str "x"])] (.arr [.null, .str "x"]) ∧
    (⟨"a", []⟩ : Path).IsDotted ∧ numeral 2 1 = "001" ∧
    (⟨"a", ["001"]⟩ : Path).expression.eval [("a", .arr [.null, .str "x"])] = .str "x" ∧
    (⟨"a", ["2"]⟩ : Path).expression.eval [("a", .arr [.null, .str "x"])] = .null ∧
    Template.fill "\x7b\x7ba\x7d\x7d" [("a", .arr [.null, .str "x"])] = .ok ",x" ∧
    Expr.parse "a" = .ok (.path "a" []) := by
  have hreaches : (⟨"a", []⟩ : Path).Reaches [("a", .arr [.null, .str "x"])]
      (.arr [.null, .str "x"]) := ⟨_, rfl, .here _⟩
  have hdotted : (⟨"a", []⟩ : Path).IsDotted :=
    ⟨⟨'a', [], rfl, by decide, by simp⟩, List.forall_mem_nil _⟩
  obtain ⟨-, -, hvalue, hitem, htext⟩ :=
    eval_expression ⟨"a", []⟩ [("a", .arr [.null, .str "x"])]
  obtain ⟨hfill, hparse⟩ := htext hdotted
  rw [hvalue _ hreaches] at hfill
  exact ⟨hreaches, hdotted, by decide, hitem _ 2 1 [] hreaches, hitem _ 0 2 [] hreaches, hfill,
    hparse (by decide)⟩

end Path

end SeriesQuery
