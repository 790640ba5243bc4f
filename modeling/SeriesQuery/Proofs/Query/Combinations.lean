import SeriesQuery.Proofs.Query.Namespaces

/-!
# Choices that no word can count

The number of choices is computed as a word before a walk over them starts. So a product whose
lengths multiply to no word has no walk and is neither empty nor not: the program is broken off.
That is so for the variables of a request too, although there is something to choose from for each
of them. Wherever there is an answer, it is the right one: `Scope.combinations_iff`.
-/

namespace SeriesQuery

namespace Product

variable {α : Type} {p : Product α}

/-- Where the lengths fit, a product is empty if one of its lists is. -/
theorem isEmpty_of_fits (h : p.Fits) {b : Bool} :
    p.isEmpty = .ok b ↔ (b = true ↔ [] ∈ p.dimensions) := by
  have hempty : p.isEmpty = .ok (p.count == 0) := by
    rw [isEmpty, size_of_fits h]
    rfl
  rw [hempty, Except.ok.injEq, ← count_eq_zero_iff, ← beq_iff_eq (a := p.count), Bool.eq_iff_iff]
  exact iff_comm

/-- Where they do not, it is not known whether the product is empty. -/
theorem isEmpty_of_not_fits (h : ¬p.Fits) : p.isEmpty = .error .multiply := by
  rw [isEmpty, size_of_not_fits h]
  rfl

/-- A product is known to be empty, or not to be, exactly if the lengths fit, and then one of its
lists is, or none. -/
theorem isEmpty_eq_ok_iff {b : Bool} :
    p.isEmpty = .ok b ↔ p.Fits ∧ (b = true ↔ [] ∈ p.dimensions) := by
  by_cases h : p.Fits
  · simp only [isEmpty_of_fits h, h, true_and]
  · simp [isEmpty_of_not_fits h, h]

/-- Otherwise the multiplication of the lengths overflows. -/
theorem isEmpty_eq_error_iff : p.isEmpty = .error .multiply ↔ ¬p.Fits := by
  refine ⟨fun herror hfits => ?_, isEmpty_of_not_fits⟩
  rw [isEmpty, size_of_fits hfits] at herror
  cases herror

/-- A walk shows something exactly if the lengths fit and no list is empty. -/
theorem toList_ne_nil_iff :
    (∃ items, p.toList = .ok items ∧ items ≠ []) ↔ p.isEmpty = .ok false := by
  by_cases h : p.Fits
  · simp [toList_of_fits h, isEmpty_of_fits h, choices_ne_nil_iff]
  · simp [toList_of_not_fits h, isEmpty_of_not_fits h]

/-- It shows something at its first call then. -/
theorem next_ne_none_iff :
    (∃ start, p.start = .ok start ∧ start.next.1 ≠ none) ↔ p.isEmpty = .ok false := by
  by_cases h : p.Fits
  · have hstart : p.start = .ok p.walk := by
      rw [start_eq, size_of_fits h]
      rfl
    have hfirst : p.walk.next.1 = none ↔ choices p.dimensions = [] := by
      rw [(Odometer.next_eq p.sound_walk).1, List.head?_eq_none_iff, remaining_walk]
    simp [hstart, hfirst, isEmpty_of_fits h, ← choices_ne_nil_iff]
  · have hstart : p.start = .error .multiply := by
      rw [start_eq, size_of_not_fits h]
      rfl
    simp [hstart, isEmpty_of_not_fits h]

end Product

namespace Scope

variable {declared : List String} {vars : ScopedVars}

/-- A request that is split up has a combination. -/
theorem combinations_ne_nil {scope : Scope} (h : expand declared vars = .ok scope) :
    scope.combinations ≠ [] := by
  rw [eq_scopeOf h, scopeOf, Ne, List.map_eq_nil_iff]
  exact Product.choices_ne_nil_iff.2 nil_not_mem_selections

/-- It is split up exactly if a word can count the choices. -/
theorem expand_ne_nil_iff :
    (∃ scope, expand declared vars = .ok scope ∧ scope.combinations ≠ []) ↔
      ((selections declared vars).map List.length).prod < 2 ^ 64 := by
  constructor
  · rintro ⟨scope, hscope, -⟩
    by_contra hcount
    rw [expand_of_not_fits (not_lt.1 hcount)] at hscope
    cases hscope
  · intro hcount
    exact ⟨_, expand_of_fits hcount, combinations_ne_nil (expand_of_fits hcount)⟩

/-- If no word can, the multiplication of the numbers of values overflows. -/
theorem expand_eq_error_iff : expand declared vars = .error .multiply ↔
    2 ^ 64 ≤ ((selections declared vars).map List.length).prod := by
  refine ⟨fun herror => ?_, expand_of_not_fits⟩
  by_contra hcount
  rw [expand_of_fits (not_le.1 hcount)] at herror
  cases herror

/-- Where the lengths fit a word, a product is empty exactly if one of its lists is, and a walk over
one that is not empty shows something. Where they do not, there is no walk. Lists that all have
elements fit if a word can count their choices. So for the variables of a request, which all have
something to choose from, there is a combination, unless no word can count the choices. -/
theorem combinations_iff {α : Type} (p : Product α) (declared : List String) (vars : ScopedVars) :
    (∀ b, p.isEmpty = .ok b ↔ p.Fits ∧ (b = true ↔ [] ∈ p.dimensions)) ∧
    (p.isEmpty = .error .multiply ↔ ¬p.Fits) ∧
    ([] ∉ p.dimensions → (p.Fits ↔ p.count < 2 ^ 64)) ∧
    ((∃ start, p.start = .ok start ∧ start.next.1 ≠ none) ↔ p.isEmpty = .ok false) ∧
    ((∃ items, p.toList = .ok items ∧ items ≠ []) ↔ p.isEmpty = .ok false) ∧
    [] ∉ selections declared vars ∧
    ((∃ scope, expand declared vars = .ok scope ∧ scope.combinations ≠ []) ↔
      ((selections declared vars).map List.length).prod < 2 ^ 64) ∧
    (expand declared vars = .error .multiply ↔
      2 ^ 64 ≤ ((selections declared vars).map List.length).prod) := by
  exact ⟨fun _ => Product.isEmpty_eq_ok_iff, Product.isEmpty_eq_error_iff, Product.fits_iff,
    Product.next_ne_none_iff, Product.toList_ne_nil_iff, nil_not_mem_selections,
    expand_ne_nil_iff, expand_eq_error_iff⟩

/-- Two lists with elements have a walk that shows something, and two values of a variable have a
combination. -/
theorem combinations_of_two :
    [] ∉ [["x", "y"], ["z"]] ∧ (Product.mk [["x", "y"], ["z"]]).isEmpty = .ok false ∧
    ∃ scope, expand ["env"] [("env", ⟨none, .arr [.str "a", .str "b"]⟩)] = .ok scope ∧
      scope.combinations ≠ [] := by
  obtain ⟨hempty, -, hfits, -, -, -, hexpand, -⟩ := combinations_iff
    (Product.mk [["x", "y"], ["z"]]) ["env"] [("env", ⟨none, .arr [.str "a", .str "b"]⟩)]
  have hlists : [] ∉ [["x", "y"], ["z"]] := by decide
  refine ⟨hlists, (hempty false).2 ⟨(hfits hlists).2 (by decide), ?_⟩, hexpand.2 (by decide)⟩
  exact ⟨fun h => absurd h (by decide), fun h => absurd h hlists⟩

/-- Sixteen names of variables. -/
def manyNames : List String :=
  ["a", "b", "c", "d", "e", "f", "g", "h", "i", "j", "k", "l", "m", "n", "o", "p"]

/-- Sixteen values for each of these names. -/
def manyVars : ScopedVars :=
  manyNames.map fun name => (name, ⟨none, .arr ((List.range 16).map Json.nat)⟩)

/-- No word can count the choices from sixteen values of sixteen variables. -/
theorem count_manyVars : ((selections manyNames manyVars).map List.length).prod = 2 ^ 64 := by
  decide

/-- A request with so many choices is not split up. -/
theorem expand_manyVars : expand manyNames manyVars = .error .multiply :=
  expand_of_not_fits count_manyVars.ge

/-- Of sixteen lists of sixteen elements it is not known whether they are empty, they have no walk,
and the request that has them as the values of its variables has no combinations. -/
theorem many_choices_missing :
    [] ∉ selections manyNames manyVars ∧
    (Product.mk (selections manyNames manyVars)).isEmpty = .error .multiply ∧
    (Product.mk (selections manyNames manyVars)).start = .error .multiply ∧
    (Product.mk (selections manyNames manyVars)).toList = .error .multiply ∧
    expand manyNames manyVars = .error .multiply := by
  have hfits : ¬(Product.mk (selections manyNames manyVars)).Fits := by
    rw [fits_selections, count_manyVars]
    exact lt_irrefl _
  refine ⟨nil_not_mem_selections, Product.isEmpty_of_not_fits hfits, ?_,
    Product.toList_of_not_fits hfits, expand_manyVars⟩
  rw [Product.start_eq, Product.size_of_not_fits hfits]
  rfl

end Scope

end SeriesQuery
