import Mathlib.Algebra.BigOperators.Ring.List
import Mathlib.Algebra.Ring.Nat
import Mathlib.Data.List.Flatten
import SeriesQuery.Product

/-!
# What a walk shows

`Product.choices` are the choices of one element from each of several lists, the first list
outermost. A walk whose wheels are on their lists shows the choice of its wheels, and after it shows
the choices that come later, in order. A walk from the start shows all of them
(`Product.toList_eq`), and there is one exactly if the lengths of the first lists multiply to words
(`Product.Fits`).
-/

namespace SeriesQuery

variable {α : Type}

namespace Product

/-- The choices of one element from each list, the first list outermost. -/
def choices : List (List α) → List (List α)
  | [] => [[]]
  | dimension :: dimensions => dimension.flatMap fun a => (choices dimensions).map (a :: ·)

/-- There are as many choices as the lengths of the lists multiply to. -/
theorem length_choices (dimensions : List (List α)) :
    (choices dimensions).length = (dimensions.map List.length).prod := by
  induction dimensions with
  | nil => rfl
  | cons dimension dimensions ih =>
      rw [choices, List.length_flatMap]
      simp only [List.length_map, ih, List.map_const', List.sum_replicate_nat,
        List.map_cons, List.prod_cons]

/-- A choice has one element for each list. -/
theorem forall₂_of_mem_choices {dimensions : List (List α)} {choice : List α}
    (h : choice ∈ choices dimensions) :
    List.Forall₂ (fun a dimension => a ∈ dimension) choice dimensions := by
  induction dimensions generalizing choice with
  | nil =>
      rw [choices, List.mem_singleton] at h
      subst h
      exact .nil
  | cons dimension dimensions ih =>
      obtain ⟨a, ha, hrest⟩ := List.mem_flatMap.1 h
      obtain ⟨rest, hmem, rfl⟩ := List.mem_map.1 hrest
      exact .cons ha (ih hmem)

/-- The choices from mapped lists are the mapped choices. -/
theorem choices_map {β : Type} (f : α → β) (dimensions : List (List α)) :
    choices (dimensions.map (List.map f)) = (choices dimensions).map (List.map f) := by
  induction dimensions with
  | nil => rfl
  | cons dimension dimensions ih =>
      simp only [List.map_cons, choices, ih, List.flatMap_map, List.map_flatMap, List.map_map]
      rfl

end Product

namespace Odometer

open Product

/-- Every wheel shows a position of its list. -/
abbrev OnLists (wheels : List Nat) (dimensions : List (List α)) : Prop :=
  List.Forall₂ (fun i dimension => i < dimension.length) wheels dimensions

/-- The choices from the one that the wheels show on. -/
def choicesFrom : List Nat → List (List α) → List (List α)
  | i :: wheels, dimension :: dimensions =>
    match dimension.drop i with
    | [] => []
    | a :: later =>
      (choicesFrom wheels dimensions).map (a :: ·) ++ choices (later :: dimensions)
  | _, _ => [[]]

/-- Where no wheel is past its list, no list is empty. -/
theorem ne_nil_of_onLists {wheels : List Nat} {dimensions : List (List α)}
    (h : OnLists wheels dimensions) : ∀ dimension ∈ dimensions, dimension ≠ [] := by
  induction h with
  | nil => simp
  | cons hi _ ih =>
      intro dimension hmem
      rcases List.mem_cons.1 hmem with rfl | hmem
      · exact List.ne_nil_of_length_pos (Nat.zero_lt_of_lt hi)
      · exact ih dimension hmem

/-- From their first positions on, the wheels show all choices. -/
theorem choicesFrom_zero {dimensions : List (List α)}
    (h : ∀ dimension ∈ dimensions, dimension ≠ []) :
    choicesFrom (dimensions.map fun _ => 0) dimensions = choices dimensions := by
  induction dimensions with
  | nil => rfl
  | cons dimension dimensions ih =>
      cases dimension with
      | nil => exact absurd rfl (h [] List.mem_cons_self)
      | cons a later =>
          have hrest := ih fun dimension hmem => h dimension (List.mem_cons_of_mem _ hmem)
          rw [List.map_cons, choicesFrom]
          simp only [List.drop_zero, hrest]
          rfl

/-- The choice that wheels on their lists show, and what turning them by one does: either it was the
last choice and the wheels are back at their first positions, or the wheels are on the choice after
it. -/
theorem choicesFrom_turn {wheels : List Nat} {dimensions : List (List α)}
    (h : OnLists wheels dimensions) :
    ∃ choice, ((wheels.zip dimensions).mapM fun (i, dimension) => dimension[i]?) = some choice ∧
      match turn wheels dimensions with
      | (next, true) =>
        choicesFrom wheels dimensions = [choice] ∧ next = dimensions.map fun _ => 0
      | (next, false) =>
        choicesFrom wheels dimensions = choice :: choicesFrom next dimensions ∧
          OnLists next dimensions := by
  induction h with
  | nil => exact ⟨[], rfl, rfl, rfl⟩
  | @cons i dimension wheels dimensions hi h ih =>
      obtain ⟨choice, hchoice, hturn⟩ := ih
      have hdrop : dimension.drop i = dimension[i] :: dimension.drop (i + 1) :=
        List.drop_eq_getElem_cons hi
      refine ⟨dimension[i] :: choice, by simp [hi, hchoice], ?_⟩
      rw [turn, choicesFrom, hdrop]
      rcases hnext : turn wheels dimensions with ⟨next, carried⟩
      rw [hnext] at hturn
      cases carried with
      | false =>
          obtain ⟨hfrom, hnext⟩ := hturn
          refine ⟨?_, .cons hi hnext⟩
          rw [choicesFrom, hdrop, hfrom]
          rfl
      | true =>
          obtain ⟨hfrom, rfl⟩ := hturn
          simp only [hfrom]
          by_cases hlast : i + 1 < dimension.length
          · -- this wheel goes on, and those to its right start anew
            have hdrop' : dimension.drop (i + 1) =
                dimension[i + 1] :: dimension.drop (i + 1 + 1) := List.drop_eq_getElem_cons hlast
            have hzero : OnLists (dimensions.map fun _ => 0) dimensions := by
              rw [OnLists, List.forall₂_map_left_iff, List.forall₂_same]
              exact fun dimension hmem =>
                List.length_pos_of_ne_nil (ne_nil_of_onLists h dimension hmem)
            rw [if_pos hlast]
            refine ⟨?_, .cons hlast hzero⟩
            rw [choicesFrom, hdrop', choicesFrom_zero (ne_nil_of_onLists h)]
            rfl
          · rw [if_neg hlast]
            have hnone : dimension.drop (i + 1) = [] := by simpa using hlast
            exact ⟨by rw [hnone]; rfl, rfl⟩

/-- A walk that goes on has its wheels on its lists. -/
def Sound (o : Odometer α) : Prop := o.done = false → OnLists o.wheels o.dimensions

/-- The choices that a walk has still to show. -/
def remaining (o : Odometer α) : List (List α) :=
  if o.done then [] else choicesFrom o.wheels o.dimensions

/-- A walk shows the first of its remaining choices and goes on with the others. -/
theorem next_eq {o : Odometer α} (h : o.Sound) :
    o.next.1 = o.remaining.head? ∧ o.next.2.remaining = o.remaining.tail ∧ o.next.2.Sound := by
  rcases o with ⟨dimensions, wheels, _ | _⟩
  · obtain ⟨choice, hchoice, hturn⟩ := choicesFrom_turn (h rfl)
    rw [next]
    rcases hnext : turn wheels dimensions with ⟨next, carried⟩
    rw [hnext] at hturn
    cases carried with
    | true =>
        obtain ⟨hfrom, -⟩ := hturn
        simpa [remaining, Sound, current?, hfrom] using hchoice
    | false =>
        obtain ⟨hfrom, hon⟩ := hturn
        refine ⟨?_, ?_, fun _ => hon⟩
        · simpa [remaining, current?, hfrom] using hchoice
        · simp [remaining, hfrom]
  · exact ⟨rfl, rfl, h⟩

/-- Enough calls show all remaining choices. -/
theorem collect_eq {o : Odometer α} (h : o.Sound) {fuel : Nat}
    (hfuel : o.remaining.length ≤ fuel) : o.collect fuel = o.remaining := by
  induction fuel generalizing o with
  | zero => exact (List.eq_nil_of_length_eq_zero (Nat.le_zero.1 hfuel)).symm
  | succ fuel ih =>
      obtain ⟨hshown, hrest, hsound⟩ := next_eq h
      rw [collect]
      rcases hnext : o.next with ⟨shown, after⟩
      rw [hnext] at hshown hrest hsound
      cases hremaining : o.remaining with
      | nil =>
          rw [hremaining] at hshown
          obtain rfl : shown = none := hshown
          rfl
      | cons choice later =>
          rw [hremaining] at hshown hrest hfuel
          obtain rfl : shown = some choice := hshown
          have hcollect : after.collect fuel = after.remaining := by
            refine ih hsound ?_
            rw [hrest]
            exact Nat.le_of_succ_le_succ hfuel
          exact congrArg (choice :: ·) (hcollect.trans hrest)

end Odometer

namespace Product

/-- The number of choices is the product of the lengths of the lists. -/
theorem count_eq (p : Product α) : p.count = (p.dimensions.map List.length).prod := by
  rw [count, List.prod_eq_foldl]

/-- There are no choices exactly if one of the lists is empty. -/
theorem count_eq_zero_iff {p : Product α} : p.count = 0 ↔ [] ∈ p.dimensions := by
  rw [count_eq, List.prod_eq_zero_iff, List.mem_map]
  constructor
  · rintro ⟨dimension, hmem, hlength⟩
    rwa [List.eq_nil_of_length_eq_zero hlength] at hmem
  · intro hmem
    exact ⟨[], hmem, rfl⟩

/-- There are choices if no list is empty. -/
theorem choices_ne_nil_iff {dimensions : List (List α)} :
    choices dimensions ≠ [] ↔ [] ∉ dimensions := by
  rw [Ne, ← List.length_eq_zero_iff, length_choices, ← count_eq ⟨dimensions⟩, count_eq_zero_iff]

/-- The lengths of the first lists multiply to a word, however many of the lists are taken. -/
def Fits (p : Product α) : Prop :=
  ∀ first, first <+: p.dimensions → (first.map List.length).prod < 2 ^ 64

/-- Lengths multiply to a word as long as they do on the way. -/
theorem foldlM_mulLength (dimensions : List (List α)) {n : Nat} (hn : n < 2 ^ 64) :
    ((∀ first, first <+: dimensions → n * (first.map List.length).prod < 2 ^ 64) ∧
      dimensions.foldlM (fun n dimension => Word.mulLength n dimension.length) n =
        .ok (n * (dimensions.map List.length).prod)) ∨
    ((∃ first, first <+: dimensions ∧ 2 ^ 64 ≤ n * (first.map List.length).prod) ∧
      dimensions.foldlM (fun n dimension => Word.mulLength n dimension.length) n =
        .error .multiply) := by
  induction dimensions generalizing n with
  | nil =>
      refine .inl ⟨?_, congrArg Except.ok (Nat.mul_one n).symm⟩
      intro first hfirst
      rw [List.prefix_nil.1 hfirst]
      simpa using hn
  | cons dimension dimensions ih =>
      have hprod (first : List (List α)) : n * ((dimension :: first).map List.length).prod =
          n * dimension.length * (first.map List.length).prod := by
        rw [List.map_cons, List.prod_cons, Nat.mul_assoc]
      rw [List.foldlM_cons, Word.mulLength, show UInt64.size = 2 ^ 64 from rfl]
      by_cases hmul : n * dimension.length < 2 ^ 64
      · rw [if_pos hmul]
        rcases ih hmul with ⟨hall, hok⟩ | ⟨⟨first, hfirst, hover⟩, herror⟩
        · refine .inl ⟨?_, hok.trans (congrArg Except.ok (hprod dimensions).symm)⟩
          intro first hfirst
          rcases List.prefix_cons_iff.1 hfirst with rfl | ⟨rest, rfl, hrest⟩
          · simpa using hn
          · rw [hprod]
            exact hall rest hrest
        · refine .inr ⟨⟨dimension :: first, List.prefix_cons_inj dimension |>.2 hfirst, ?_⟩, herror⟩
          rwa [hprod]
      · rw [if_neg hmul]
        refine .inr ⟨⟨[dimension], ⟨dimensions, rfl⟩, ?_⟩, rfl⟩
        simpa using Nat.not_lt.1 hmul

/-- Where the lengths fit, their word is the number of choices. -/
theorem size_of_fits {p : Product α} (h : p.Fits) : p.size = .ok p.count := by
  rcases foldlM_mulLength p.dimensions (n := 1) (by decide) with
    ⟨-, hok⟩ | ⟨⟨first, hfirst, hover⟩, -⟩
  · rw [size, hok, Nat.one_mul, count_eq]
  · rw [Nat.one_mul] at hover
    exact absurd (h first hfirst) (Nat.not_lt.2 hover)

/-- Where the lengths do not fit, their multiplication overflows. -/
theorem size_of_not_fits {p : Product α} (h : ¬p.Fits) : p.size = .error .multiply := by
  rcases foldlM_mulLength p.dimensions (n := 1) (by decide) with ⟨hall, -⟩ | ⟨-, herror⟩
  · refine absurd ?_ h
    intro first hfirst
    simpa using hall first hfirst
  · exact herror

/-- Where no list is empty, the lengths fit exactly if the number of choices is a word. -/
theorem fits_iff {p : Product α} (h : [] ∉ p.dimensions) : p.Fits ↔ p.count < 2 ^ 64 := by
  constructor
  · intro hfits
    rw [count_eq]
    exact hfits p.dimensions (List.prefix_refl _)
  · rintro hcount first ⟨rest, hrest⟩
    have hpos : 0 < (rest.map List.length).prod := by
      refine Nat.pos_of_ne_zero ?_
      rw [← count_eq ⟨rest⟩, Ne, count_eq_zero_iff]
      intro hmem
      exact h (hrest ▸ List.mem_append_right first hmem)
    rw [count_eq, ← hrest, List.map_append, List.prod_append] at hcount
    exact (Nat.le_mul_of_pos_right _ hpos).trans_lt hcount

/-- A walk over all choices. -/
def walk (p : Product α) : Odometer α where
  dimensions := p.dimensions
  wheels := p.dimensions.map fun _ => 0
  done := p.count == 0

/-- A walk starts at the first choice, unless the multiplication of the lengths overflows. -/
theorem start_eq (p : Product α) : p.start = p.size.map fun _ => p.walk := by
  by_cases h : p.Fits
  · rw [start, isEmpty, size_of_fits h]
    rfl
  · rw [start, isEmpty, size_of_not_fits h]
    rfl

/-- Where a walk goes on, no list is empty. -/
theorem ne_nil_of_not_done {p : Product α} (h : p.walk.done = false) :
    ∀ dimension ∈ p.dimensions, dimension ≠ [] := by
  rintro _ hmem rfl
  have hzero : p.walk.done = true := beq_iff_eq.2 (count_eq_zero_iff.2 hmem)
  rw [hzero] at h
  cases h

/-- A walk over all choices has its wheels on its lists. -/
theorem sound_walk (p : Product α) : p.walk.Sound := by
  intro hdone
  rw [walk, Odometer.OnLists, List.forall₂_map_left_iff, List.forall₂_same]
  exact fun dimension hmem => List.length_pos_of_ne_nil (ne_nil_of_not_done hdone dimension hmem)

/-- A walk over all choices has all of them to show. -/
theorem remaining_walk (p : Product α) : p.walk.remaining = choices p.dimensions := by
  rw [Odometer.remaining]
  cases hdone : p.walk.done with
  | true =>
      refine (List.eq_nil_of_length_eq_zero ?_).symm
      rw [length_choices, ← count_eq]
      exact beq_iff_eq.1 hdone
  | false => exact Odometer.choicesFrom_zero (ne_nil_of_not_done hdone)

/-- All choices are shown, unless the multiplication of the lengths overflows. -/
theorem toList_eq (p : Product α) : p.toList = p.size.map fun _ => choices p.dimensions := by
  have hfuel : p.walk.remaining.length ≤ p.count := by
    rw [remaining_walk, length_choices, count_eq]
  have hcollect : p.walk.collect p.count = choices p.dimensions := by
    rw [Odometer.collect_eq p.sound_walk hfuel, remaining_walk]
  rw [toList, start_eq]
  cases p.size with
  | error o => rfl
  | ok n => exact congrArg Except.ok hcollect

/-- Where the lengths fit, a walk shows all choices. -/
theorem toList_of_fits {p : Product α} (h : p.Fits) : p.toList = .ok (choices p.dimensions) := by
  rw [toList_eq, size_of_fits h]
  rfl

/-- Where the lengths do not fit, there is no walk. -/
theorem toList_of_not_fits {p : Product α} (h : ¬p.Fits) : p.toList = .error .multiply := by
  rw [toList_eq, size_of_not_fits h]
  rfl

/-- A walk over mapped lists shows the mapped choices. -/
theorem toList_map {β : Type} (f : α → β) (dimensions : List (List α)) :
    (Product.mk (dimensions.map (List.map f))).toList =
      (Product.mk dimensions).toList.map (List.map (List.map f)) := by
  have hsize : (Product.mk (dimensions.map (List.map f))).size = (Product.mk dimensions).size := by
    simp [size, List.foldlM_map]
  rw [toList_eq, toList_eq, hsize, choices_map]
  cases (Product.mk dimensions).size <;> rfl

/-- Of two choices one comes before the other: they agree up to a list of which the one takes an
earlier element than the other. -/
inductive Earlier : List (List α) → List α → List α → Prop where
  | here {dimension : List α} {dimensions : List (List α)} {a b : α} {as bs : List α} :
      [a, b].Sublist dimension → Earlier (dimension :: dimensions) (a :: as) (b :: bs)
  | there {dimension : List α} {dimensions : List (List α)} {a : α} {as bs : List α} :
      Earlier dimensions as bs → Earlier (dimension :: dimensions) (a :: as) (a :: bs)

/-- The choices are in order. -/
theorem pairwise_choices (dimensions : List (List α)) :
    (choices dimensions).Pairwise (Earlier dimensions) := by
  induction dimensions with
  | nil => exact List.pairwise_singleton _ _
  | cons dimension dimensions ih =>
      rw [choices, List.pairwise_flatMap]
      constructor
      · intro a _
        rw [List.pairwise_map]
        exact ih.imp .there
      · rw [List.pairwise_iff_forall_sublist]
        intro a b hab as has bs hbs
        obtain ⟨as, -, rfl⟩ := List.mem_map.1 has
        obtain ⟨bs, -, rfl⟩ := List.mem_map.1 hbs
        exact .here hab

/-- Choices that are made alike but for the element of one list come in the order of that list. -/
theorem sublist_choices {dimension : List α} {a b : α} (hab : [a, b].Sublist dimension)
    {left right : List (List α)} {as bs : List α} (has : as ∈ choices left)
    (hbs : bs ∈ choices right) :
    [as ++ a :: bs, as ++ b :: bs].Sublist (choices (left ++ dimension :: right)) := by
  induction left generalizing as with
  | nil =>
      rw [choices, List.mem_singleton] at has
      subst has
      have hfirst : [a :: bs].Sublist ((choices right).map (a :: ·)) :=
        List.singleton_sublist.2 (List.mem_map_of_mem hbs)
      have hsecond : [b :: bs].Sublist ((choices right).map (b :: ·)) :=
        List.singleton_sublist.2 (List.mem_map_of_mem hbs)
      have hdimension := hab.flatMap fun c => (choices right).map (c :: ·)
      rw [List.flatMap_cons, List.flatMap_singleton] at hdimension
      exact (hfirst.append hsecond).trans hdimension
  | cons first left ih =>
      obtain ⟨c, hc, hrest⟩ := List.mem_flatMap.1 has
      obtain ⟨later, hlater, rfl⟩ := List.mem_map.1 hrest
      have hfirst := (List.singleton_sublist.2 hc).flatMap fun c =>
        (choices (left ++ dimension :: right)).map (c :: ·)
      rw [List.flatMap_singleton] at hfirst
      exact ((ih hlater).map (c :: ·)).trans hfirst

end Product

end SeriesQuery
