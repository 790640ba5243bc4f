import SeriesQuery.Expr.Eval
import SeriesQuery.Proofs.Dict
import SeriesQuery.Proofs.Expr.Produced

/-!
# Values without infinities

The numbers of the data format are integers and finite doubles. `Json.Finite` says that a value keeps
to that at every depth. What is read of a finite value is finite, a computed double becomes a number
only if it is finite, and the constants that are read are finite: so the value of an expression over
finite values is finite (`Expr.Produced.finite_eval`).
-/

namespace SeriesQuery

/-- A number that is an integer or a finite double. -/
def Number.Finite : Number → Prop
  | int _ => True
  | float x => Binary64.isFinite x = true

/-- A value without doubles that are not finite. -/
inductive Json.Finite : Json → Prop where
  /-- Null. -/
  | null : Finite .null
  /-- A truth value. -/
  | bool (b : Bool) : Finite (.bool b)
  /-- A number. -/
  | num {n : Number} (h : n.Finite) : Finite (.num n)
  /-- A text. -/
  | str (s : String) : Finite (.str s)
  /-- An array of such values. -/
  | arr {items : List Json} (h : ∀ v ∈ items, Finite v) : Finite (.arr items)
  /-- An object of such values. -/
  | obj {fields : List (String × Json)} (h : ∀ field ∈ fields, Finite field.2) :
      Finite (.obj fields)

namespace Json

/-- A missing value is null. -/
theorem finite_getD {v? : Option Json} (h : ∀ v ∈ v?, v.Finite) : (v?.getD null).Finite := by
  cases v? with
  | none => exact .null
  | some v => exact h v rfl

/-- What an object has for a key is finite. -/
theorem finite_get? {fields : Fields} (h : ∀ field ∈ fields, field.2.Finite) (key : String) :
    ((Dict.get? fields key).getD null).Finite :=
  finite_getD fun _ hv => h _ (Dict.mem_of_get? hv)

/-- A computed double is a finite value. -/
theorem finite_ofFloat (x : Float) : (ofFloat x).Finite := by
  rw [ofFloat, Number.ofFloat?]
  by_cases hwhole : Binary64.isWhole x && x.abs < Number.wholeLimit
  · rw [if_pos hwhole]
    exact .num trivial
  · rw [if_neg hwhole]
    by_cases hfinite : Binary64.isFinite x = true
    · rw [if_pos hfinite]
      exact .num hfinite
    · rw [if_neg hfinite]
      exact .null

/-- An item of a finite array is finite. -/
theorem finite_getElem? {items : List Json} (h : ∀ v ∈ items, v.Finite) (i : Nat) :
    ((items[i]?).getD null).Finite :=
  finite_getD fun _ hv => h _ (List.mem_of_getElem? hv)

/-- An item of a finite array is finite, also from its end. -/
theorem finite_itemAt {items : List Json} (h : ∀ v ∈ items, v.Finite) (i : Int) :
    (itemAt items i).Finite := by
  rw [itemAt]
  generalize (if i < 0 then (items.length : Int) + i else i) = place
  show (if place < 0 then null else _).Finite
  split
  · exact .null
  · exact finite_getElem? h _

/-- What is read of a finite value is finite. -/
theorem finite_access {v : Json} (h : v.Finite) (key : Json) : (v.access key).Finite := by
  cases h with
  | obj h =>
      cases key with
      | str key => exact finite_get? h key
      | _ => exact .null
  | arr h =>
      cases key with
      | num n =>
          rw [access]
          split
          · exact finite_itemAt h _
          · exact .null
      | str key =>
          rw [access]
          refine finite_getD ?_
          intro v hv
          obtain ⟨i, -, hitem⟩ := Option.bind_eq_some_iff.1 hv
          exact h v (List.mem_of_getElem? hitem)
      | _ => exact .null
  | _ => cases key <;> exact .null

end Json

/-- Operations on finite values have finite values. -/
theorem Operator.finite_apply (op : Operator) {left right : Json} (hleft : left.Finite)
    (hright : right.Finite) : (op.apply left right).Finite := by
  have hdivided : ∀ f, (Operator.apply.divided left right f).Finite := by
    intro f
    rw [Operator.apply.divided]
    split
    · exact .null
    · exact Json.finite_ofFloat _
  cases op with
  | or =>
      show (if left.truthy then left else right).Finite
      split
      · exact hleft
      · exact hright
  | and =>
      show (if left.truthy then right else left).Finite
      split
      · exact hright
      · exact hleft
  | add | sub | mul => exact Json.finite_ofFloat _
  | div | mod => exact hdivided _
  | _ => exact .bool _

/-- Calls with finite arguments have finite values. -/
theorem Function.finite_apply (f : Function) {args : List Json} (h : ∀ v ∈ args, v.Finite) :
    (f.apply args).Finite := by
  have hfirst : ((args.head?).getD Json.null).Finite :=
    Json.finite_getD fun v hv => h v (List.mem_of_head? hv)
  cases f with
  | lower | upper | concat => exact .str _
  | length => exact .num trivial
  | toNumber | floor | ceil | round | abs => exact Json.finite_ofFloat _
  | contains => exact .bool _
  | dateTimestamp =>
      rw [Function.apply]
      cases hdate : (args.head?).getD Json.null with
      | num n =>
          rw [hdate] at hfirst
          exact hfirst
      | str s =>
          dsimp only
          split
          · exact .num trivial
          · exact .null
      | _ => exact .null

/-- A number that is read is finite. -/
theorem Token.finite_of_number? {s rest : List Char} {n : Number}
    (h : number? s = some (n, rest)) : n.Finite := by
  -- a double is only given after a look at whether it is finite
  have hdouble : ∀ (y : Float) (after : List Char),
      (if Binary64.isFinite y then some (Number.float y, after) else none) = some (n, rest) →
        n.Finite := by
    intro y after hread
    split at hread
    · next hfinite =>
        cases hread
        exact hfinite
    · cases hread
  rw [number?] at h
  split at h
  · cases h
  · simp only at h
    split at h
    · exact hdouble _ _ h
    · split at h
      · cases h
        trivial
      · exact hdouble _ _ h

namespace Expr

variable {scope : Fields}

/-- The values of expressions one by one. -/
theorem evalItems_eq (scope : Fields) (items : List Expr) :
    evalItems scope items = items.map (eval scope) := by
  induction items with
  | nil => rfl
  | cons e items ih => rw [evalItems, ih, List.map_cons]

/-- Steps lead from a finite value to finite ones. -/
theorem finite_evalSteps {steps : List Step} {v : Json} (hv : v.Finite) :
    (evalSteps scope v steps).Finite := by
  induction steps generalizing v with
  | nil => exact hv
  | cons step steps ih =>
      cases step with
      | key name => exact ih (Json.finite_access hv _)
      | index e => exact ih (Json.finite_access hv _)

/-- What is read as an expression has finite values where the variables have. -/
theorem Produced.finite_eval {e : Expr} (h : Produced e)
    (hscope : ∀ field ∈ scope, field.2.Finite) : (e.eval scope).Finite := by
  induction h with
  | number h => exact .num (Token.finite_of_number? h)
  | text t => exact .str t
  | bool b => exact .bool b
  | null => exact .null
  | array h ih =>
      rw [eval, evalItems_eq]
      refine .arr ?_
      intro v hv
      obtain ⟨e, he, rfl⟩ := List.mem_map.1 hv
      exact ih e he
  | path hword h ih => exact finite_evalSteps (Json.finite_get? hscope _)
  | call f h ih =>
      rw [eval, evalItems_eq]
      refine f.finite_apply ?_
      intro v hv
      obtain ⟨e, he, rfl⟩ := List.mem_map.1 hv
      exact ih e he
  | not h ih => exact .bool _
  | neg h ih => exact Json.finite_ofFloat _
  | binary op hleft hright ihleft ihright => exact op.finite_apply ihleft ihright

end Expr

end SeriesQuery
