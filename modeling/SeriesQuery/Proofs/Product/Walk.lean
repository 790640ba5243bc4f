import SeriesQuery.Proofs.Product

/-!
# The states of a walk

After `k` calls the wheels of a walk show the `k`-th of all positions, in lexicographic order, and
the walk has still to show all choices but the first `k`. The wheels depend on the lengths of the
lists only (`Twins`), so a walk over the positions themselves turns as a walk over the elements
does, and what it shows are its wheels. `Product.walk_exact` puts the parts together.
-/

namespace SeriesQuery

variable {α β : Type}

namespace Odometer

/-- After some calls a walk has dropped as many of its choices, and its wheels are on its lists. -/
theorem skip_eq {o : Odometer α} (h : o.Sound) (k : Nat) :
    (o.skip k).remaining = o.remaining.drop k ∧ (o.skip k).Sound := by
  induction k generalizing o with
  | zero => exact ⟨rfl, h⟩
  | succ k ih =>
      obtain ⟨-, hrest, hsound⟩ := next_eq h
      obtain ⟨hdrop, hskip⟩ := ih hsound
      rw [hrest, List.drop_tail] at hdrop
      exact ⟨hdrop, hskip⟩

/-- A walk that goes on shows what its wheels show. -/
theorem next_of_not_done {o : Odometer α} (h : o.done = false) : o.next.1 = o.current? := by
  rw [next, h]
  rfl

/-- A walk that is done has nothing to show, and one that goes on has. -/
theorem remaining_eq_nil_iff {o : Odometer α} (h : o.Sound) :
    o.remaining = [] ↔ o.done = true := by
  cases hdone : o.done with
  | true => simp [remaining, hdone]
  | false =>
      obtain ⟨choice, hchoice, -⟩ := choicesFrom_turn (h hdone)
      have hshown : o.next.1 = some choice := (next_of_not_done hdone).trans hchoice
      rw [(next_eq h).1] at hshown
      simp only [Bool.false_eq_true, iff_false]
      intro hnil
      rw [hnil] at hshown
      cases hshown

/-- The lists stay as they are. -/
theorem dimensions_skip (o : Odometer α) (k : Nat) : (o.skip k).dimensions = o.dimensions := by
  induction k generalizing o with
  | zero => rfl
  | succ k ih =>
      rw [skip, ih, next]
      split <;> rfl

/-- Two walks over lists of the same lengths with the same wheels. -/
structure Twins (o : Odometer α) (o' : Odometer β) : Prop where
  lengths : o.dimensions.map List.length = o'.dimensions.map List.length
  wheels : o.wheels = o'.wheels
  done : o.done = o'.done

/-- How wheels turn depends on the lengths of the lists only. -/
theorem turn_congr {dimensions : List (List α)} {dimensions' : List (List β)}
    (h : dimensions.map List.length = dimensions'.map List.length) (wheels : List Nat) :
    turn wheels dimensions = turn wheels dimensions' := by
  induction dimensions generalizing dimensions' wheels with
  | nil =>
      obtain rfl := List.map_eq_nil_iff.1 h.symm
      cases wheels <;> rfl
  | cons dimension dimensions ih =>
      obtain ⟨dimension', later, rfl, hlength, hlater⟩ := List.map_eq_cons_iff.1 h.symm
      cases wheels with
      | nil => rfl
      | cons i wheels => rw [turn, turn, ih hlater.symm, hlength]

/-- Walks with the same wheels go on with the same wheels. -/
theorem Twins.next {o : Odometer α} {o' : Odometer β} (h : Twins o o') :
    Twins o.next.2 o'.next.2 := by
  obtain ⟨hlengths, hwheels, hdone⟩ := h
  rw [Odometer.next, Odometer.next, ← hdone, ← hwheels, turn_congr hlengths]
  cases o.done with
  | true => exact ⟨hlengths, hwheels, hdone⟩
  | false => exact ⟨hlengths, rfl, rfl⟩

/-- Walks with the same wheels have the same wheels after each call. -/
theorem Twins.skip {o : Odometer α} {o' : Odometer β} (h : Twins o o') (k : Nat) :
    Twins (o.skip k) (o'.skip k) := by
  induction k generalizing o o' with
  | zero => exact h
  | succ k ih => exact ih h.next

end Odometer

namespace Product

open Odometer

/-- A choice has one element of each list, and nothing else is a choice. -/
theorem mem_choices_iff {dimensions : List (List α)} {choice : List α} :
    choice ∈ choices dimensions ↔
      List.Forall₂ (fun a dimension => a ∈ dimension) choice dimensions := by
  refine ⟨forall₂_of_mem_choices, fun h => ?_⟩
  induction h with
  | nil => exact List.mem_singleton_self _
  | cons ha _ ih => exact List.mem_flatMap.2 ⟨_, ha, List.mem_map_of_mem ih⟩

/-- Choices from lists that ascend are in lexicographic order. -/
theorem ascending_choices [LT α] {dimensions : List (List α)}
    (h : ∀ dimension ∈ dimensions, dimension.Pairwise (· < ·)) :
    (choices dimensions).Pairwise (· < ·) := by
  induction dimensions with
  | nil => exact List.pairwise_singleton _ _
  | cons dimension dimensions ih =>
      have hrest := ih fun dimension hmem => h dimension (List.mem_cons_of_mem _ hmem)
      rw [choices, List.pairwise_flatMap]
      constructor
      · -- under one first element the order is that of the other elements
        intro a _
        rw [List.pairwise_map]
        exact hrest.imp fun hlt => List.cons_lt_cons_iff.2 (.inr ⟨rfl, hlt⟩)
      · refine (h dimension List.mem_cons_self).imp ?_
        intro a b hlt first hfirst second hsecond
        obtain ⟨_, _, rfl⟩ := List.mem_map.1 hfirst
        obtain ⟨_, _, rfl⟩ := List.mem_map.1 hsecond
        exact List.cons_lt_cons_iff.2 (.inl hlt)

/-- The positions of each list. -/
def indexes (p : Product α) : Product Nat where
  dimensions := p.dimensions.map fun dimension => List.range dimension.length

/-- The positions of all choices. -/
def positions (p : Product α) : List (List Nat) := choices p.indexes.dimensions

/-- The lists of positions are as long as the lists. -/
theorem lengths_indexes (p : Product α) :
    p.dimensions.map List.length = p.indexes.dimensions.map List.length := by
  rw [indexes, List.map_map]
  exact List.map_congr_left fun dimension _ => List.length_range.symm

/-- There are as many positions as choices. -/
theorem count_indexes (p : Product α) : p.indexes.count = p.count := by
  rw [count, count, ← p.lengths_indexes]

/-- The positions are those where every wheel is on its list. -/
theorem mem_positions_iff {p : Product α} {wheels : List Nat} :
    wheels ∈ p.positions ↔ OnLists wheels p.dimensions := by
  rw [positions, mem_choices_iff, indexes, List.forall₂_map_right_iff]
  simp only [List.mem_range]

/-- The positions are in lexicographic order. -/
theorem ascending_positions (p : Product α) : p.positions.Pairwise (· < ·) := by
  refine ascending_choices ?_
  intro dimension hmem
  obtain ⟨_, _, rfl⟩ := List.mem_map.1 hmem
  exact List.pairwise_lt_range

/-- A walk over the positions has the same wheels as a walk over the elements. -/
theorem twins_walk (p : Product α) : Twins p.walk p.indexes.walk where
  lengths := p.lengths_indexes
  wheels := by
    rw [walk, walk, indexes, List.map_map]
    rfl
  done := by
    show (p.count == 0) = (p.indexes.count == 0)
    rw [count_indexes]

/-- What a walk over positions shows are its wheels. -/
theorem current?_indexes {wheels : List Nat} {dimensions : List (List α)}
    (h : OnLists wheels dimensions) :
    ((wheels.zip (dimensions.map fun dimension => List.range dimension.length)).mapM
      fun (i, dimension) => dimension[i]?) = some wheels := by
  induction h with
  | nil => rfl
  | @cons i dimension wheels dimensions hi h ih =>
      rw [List.map_cons, List.zip_cons_cons, List.mapM_cons, ih]
      simp [hi]

variable {p : Product α}

/-- A choice has the elements of lists at some positions. -/
inductive ElementsAt : List Nat → List (List α) → List α → Prop where
  | nil : ElementsAt [] [] []
  | cons {i : Nat} {a : α} {wheels : List Nat} {dimension : List α} {dimensions : List (List α)}
      {choice : List α} (ha : dimension[i]? = some a) (h : ElementsAt wheels dimensions choice) :
      ElementsAt (i :: wheels) (dimension :: dimensions) (a :: choice)

/-- A walk goes on for as many calls as there are choices. -/
theorem done_skip {k : Nat} : (p.walk.skip k).done = false ↔ k < p.count := by
  obtain ⟨hdrop, hsound⟩ := skip_eq p.sound_walk k
  have hlength : (choices p.dimensions).length = p.count := by rw [length_choices, count_eq]
  rw [← Bool.not_eq_true, ← remaining_eq_nil_iff hsound, hdrop, remaining_walk,
    List.drop_eq_nil_iff, hlength, not_le]

/-- A walk shows the choices one after the other, and then nothing any more. -/
theorem next_skip (p : Product α) (k : Nat) :
    (p.walk.skip k).next.1 = (choices p.dimensions)[k]? := by
  obtain ⟨hdrop, hsound⟩ := skip_eq p.sound_walk k
  rw [(next_eq hsound).1, hdrop, List.head?_drop, remaining_walk]

/-- The wheels show the positions one after the other. -/
theorem wheels_skip {k : Nat} (hk : k < p.count) :
    p.positions[k]? = some (p.walk.skip k).wheels := by
  have hdone := done_skip.2 hk
  have hwheels := (skip_eq p.sound_walk k).2 hdone
  rw [dimensions_skip] at hwheels
  obtain ⟨-, hsame, hgoes⟩ := p.twins_walk.skip k
  rw [positions, ← next_skip, next_of_not_done (hgoes ▸ hdone), current?, ← hsame,
    dimensions_skip]
  exact current?_indexes hwheels

/-- What wheels on their lists show are the elements at their positions. -/
theorem elementsAt_of_current? {wheels : List Nat} {dimensions : List (List α)}
    (h : OnLists wheels dimensions) {choice : List α}
    (hchoice : ((wheels.zip dimensions).mapM fun (i, dimension) => dimension[i]?) = some choice) :
    ElementsAt wheels dimensions choice := by
  induction h generalizing choice with
  | nil =>
      cases hchoice
      exact .nil
  | @cons i dimension wheels dimensions hi h ih =>
      obtain ⟨rest, hrest, -⟩ := choicesFrom_turn h
      simp only [List.zip_cons_cons, List.mapM_cons, hrest, List.getElem?_eq_getElem hi] at hchoice
      cases hchoice
      exact .cons (List.getElem?_eq_getElem hi) (ih hrest)

/-- The positions of a product in order, and the choices at them. -/
structure InOrder (p : Product α) (positions : List (List Nat)) (items : List (List α)) : Prop where
  /-- The positions are in lexicographic order, the position on the first list before the others. -/
  ascending : positions.Pairwise (· < ·)
  /-- All positions on the lists are there, and no others. -/
  mem_positions : ∀ wheels, wheels ∈ positions ↔ OnLists wheels p.dimensions
  /-- An item has the elements at its position. -/
  elements : List.Forall₂ (fun wheels item => ElementsAt wheels p.dimensions item) positions items

/-- What a product gives that is walked through from a start, and the states in between. -/
structure Walks (p : Product α) (start : Odometer α) (positions : List (List Nat))
    (items : List (List α)) : Prop where
  /-- Each call gives the next item, and every call after the last item gives nothing. -/
  next : ∀ k, (start.skip k).next.1 = items[k]?
  /-- Before the last item is shown, the wheels are at the position of the next one. -/
  wheels : ∀ k < items.length, (start.skip k).done = false ∧
    positions[k]? = some (start.skip k).wheels ∧ OnLists (start.skip k).wheels p.dimensions
  /-- After some calls the other items are left. -/
  rest : ∀ k fuel, items.length ≤ k + fuel → (start.skip k).collect fuel = items.drop k
  /-- A walk from the start again has all items. -/
  restart : ∀ k, (Product.mk (start.skip k).dimensions).toList = .ok items

/-- The choices are in the order of their positions. -/
theorem inOrder_choices (p : Product α) : p.InOrder p.positions (choices p.dimensions) where
  ascending := p.ascending_positions
  mem_positions _ := mem_positions_iff
  elements := by
    have hlength : (choices p.dimensions).length = p.count := by rw [length_choices, count_eq]
    have hpositions : p.positions.length = p.count := by
      rw [positions, length_choices, ← count_eq, count_indexes]
    refine List.forall₂_iff_get.2 ⟨hpositions.trans hlength.symm, fun k hk hk' => ?_⟩
    -- both are what the walk has after as many calls
    rw [hpositions] at hk
    have hdone := done_skip.2 hk
    have hwheels := (skip_eq p.sound_walk k).2 hdone
    have hposition := wheels_skip hk
    have hitem := next_skip p k
    rw [next_of_not_done hdone, current?, List.getElem?_eq_getElem hk', dimensions_skip] at hitem
    rw [List.getElem?_eq_getElem (by rwa [hpositions]), Option.some.injEq] at hposition
    rw [dimensions_skip] at hwheels
    simp only [List.get_eq_getElem, hposition]
    exact elementsAt_of_current? hwheels hitem

/-- A walk from the start goes through the choices. -/
theorem walks_choices (h : p.Fits) : p.Walks p.walk p.positions (choices p.dimensions) where
  next := next_skip p
  wheels k hk := by
    rw [length_choices, ← count_eq] at hk
    have hdone := done_skip.2 hk
    have hwheels := (skip_eq p.sound_walk k).2 hdone
    rw [dimensions_skip] at hwheels
    exact ⟨hdone, wheels_skip hk, hwheels⟩
  rest k fuel hfuel := by
    obtain ⟨hdrop, hsound⟩ := skip_eq p.sound_walk k
    rw [remaining_walk] at hdrop
    have hleft : (p.walk.skip k).remaining.length ≤ fuel := by
      rw [hdrop, List.length_drop]
      omega
    rw [collect_eq hsound hleft, hdrop]
  restart k := by
    rw [dimensions_skip]
    exact toList_of_fits h

/-- Where the lengths of the lists fit, there is a walk, and it shows the choices in the order of
their positions, as many as the word for their number says, and then nothing any more. From no lists
there is one empty choice, and where a list is empty there is none. Otherwise the multiplication of
the lengths overflows. Lists that all have elements fit exactly if the number of choices is a
word. -/
theorem walk_exact (p : Product α) :
    (p.Fits → ∃ start positions items, p.start = .ok start ∧ p.InOrder positions items ∧
      p.Walks start positions items ∧ p.size = .ok items.length ∧
      p.isEmpty = .ok items.isEmpty ∧ (p.dimensions = [] → items = [[]]) ∧
      ([] ∈ p.dimensions → items = [])) ∧
    (¬p.Fits → p.size = .error .multiply ∧ p.isEmpty = .error .multiply ∧
      p.start = .error .multiply) ∧
    ([] ∉ p.dimensions → (p.Fits ↔ p.count < 2 ^ 64)) := by
  have hlength : p.count = (choices p.dimensions).length := by rw [length_choices, count_eq]
  refine ⟨fun h => ?_, fun h => ?_, fits_iff⟩
  · have hsize : p.size = .ok (choices p.dimensions).length := by rw [size_of_fits h, hlength]
    refine ⟨_, _, _, ?_, inOrder_choices p, walks_choices h, hsize, ?_, ?_, ?_⟩
    · rw [start_eq, hsize]
      rfl
    · rw [isEmpty, hsize]
      cases choices p.dimensions <;> rfl
    · intro hnone
      rw [hnone]
      rfl
    · intro hempty
      refine List.eq_nil_of_length_eq_zero ?_
      rw [← hlength]
      exact count_eq_zero_iff.2 hempty
  · have hsize := size_of_not_fits h
    refine ⟨hsize, ?_, ?_⟩
    · rw [isEmpty, hsize]
      rfl
    · rw [start_eq, hsize]
      rfl

/-- Of lists with one, three and two elements, one of them twice, all six choices are shown. -/
theorem walk_repeated :
    ∃ start positions items,
      (Product.mk [["a"], ["x", "y", "x"], ["1", "2"]]).start = .ok start ∧
      (Product.mk [["a"], ["x", "y", "x"], ["1", "2"]]).InOrder positions items ∧
      (Product.mk [["a"], ["x", "y", "x"], ["1", "2"]]).Walks start positions items ∧
      items.length = 6 ∧ items[4]? = some ["a", "x", "1"] := by
  obtain ⟨hwalk, -, hfits⟩ := walk_exact (Product.mk [["a"], ["x", "y", "x"], ["1", "2"]])
  obtain ⟨start, positions, items, hstart, horder, hwalks, hsize, -⟩ :=
    hwalk ((hfits (by decide)).2 (by decide))
  cases hstart
  exact ⟨_, positions, items, rfl, horder, hwalks, (Except.ok.inj hsize).symm,
    (hwalks.next 4).symm⟩

/-- Sixty-four lists of two elements before an empty list: there are no choices, but the lengths
overflow before the empty list is looked at. -/
theorem walk_broken_off :
    (Product.mk (List.replicate 64 [0, 1] ++ [[]])).count = 0 ∧
    [] ∈ (Product.mk (List.replicate 64 [0, 1] ++ [[]])).dimensions ∧
    (Product.mk (List.replicate 64 [0, 1] ++ [[]])).size = .error .multiply ∧
    (Product.mk (List.replicate 64 [0, 1] ++ [[]])).isEmpty = .error .multiply ∧
    (Product.mk (List.replicate 64 [0, 1] ++ [[]])).start = .error .multiply := by
  exact ⟨rfl, by decide, rfl, rfl, rfl⟩

end Product

end SeriesQuery
