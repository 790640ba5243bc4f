import SeriesQuery.Proofs.Expr.Finite
import SeriesQuery.Proofs.Number.Order

/-!
# The order of values and plain equality

Values are compared as their keys, which are linearly ordered: first the ranks of the kinds, then
what values of one kind are told apart by (`order_eq_compare`). So the order of values is a total
preorder. Plain equality is coarser than identity for zeros only, and finer than a tie in the order:
`same_eq_iff` says that it is an equivalence, and `sortKey_eq_of_same` that equal values tie.
-/

namespace SeriesQuery

open Binary64

/-- An integer or a finite double is a number as a double. -/
theorem Number.not_isNaN_toFloat {n : Number} (h : n.Finite) : n.toFloat.isNaN = false := by
  cases n with
  | int z => exact not_isNaN_ofInt z
  | float x => exact not_isNaN_of_isFinite h

namespace Json

/-! ### The order -/

/-- The truth value that values of its kind are ordered by. -/
def truthKey : Json → Bool
  | bool b => b
  | _ => false

/-- The value of the double that numbers are ordered by. -/
def sizeKey : Json → WithBot (WithTop ℚ)
  | num n => extended n.toFloat
  | _ => ⊥

/-- The text that texts are ordered by. -/
def textKey : Json → String
  | str s => s
  | _ => ""

/-- What values are ordered by. -/
def sortKey (v : Json) : ℕ ×ₗ Bool ×ₗ WithBot (WithTop ℚ) ×ₗ String :=
  toLex (v.rank, toLex (v.truthKey, toLex (v.sizeKey, v.textKey)))

/-- Pairs are compared by their first parts, and by the second ones where these are equal. -/
theorem compare_toLex {α β : Type} [LinearOrder α] [LinearOrder β] (a a' : α) (b b' : β) :
    compare (toLex (a, b)) (toLex (a', b')) = (compare a a').then (compare b b') := by
  rw [Prod.Lex.compare_def]
  rfl

variable {a b c v w : Json}

/-- Keys are compared by ranks first. -/
theorem compare_sortKey (a b : Json) :
    compare a.sortKey b.sortKey = (compare a.rank b.rank).then ((compare a.truthKey b.truthKey).then
      ((compare a.sizeKey b.sizeKey).then (compare a.textKey b.textKey))) := by
  rw [sortKey, sortKey, compare_toLex, compare_toLex, compare_toLex]

/-- Doubles that are numbers are ordered as their values. -/
theorem compareFloats_eq_compare {x y : Float} (hx : x.isNaN = false) (hy : y.isNaN = false) :
    compareFloats x y = compare (extended x) (extended y) := by
  rw [compareFloats]
  simp only [lt_iff hx hy, lt_iff hy hx]
  split_ifs with hlt hgt
  · exact (compare_lt_iff_lt.2 hlt).symm
  · exact (compare_gt_iff_gt.2 hgt).symm
  · exact (compare_eq_iff_eq.2 (le_antisymm (not_lt.1 hgt) (not_lt.1 hlt))).symm

/-- Values of different kinds are ordered by their kinds. -/
theorem order_of_rank_ne (h : a.rank ≠ b.rank) : order a b = compare a.rank b.rank := by
  unfold order
  split
  · exact absurd rfl h
  · exact absurd rfl h
  · exact absurd rfl h
  · rfl

/-- Finite values are ordered as their keys. -/
theorem order_eq_compare (ha : a.Finite) (hb : b.Finite) :
    order a b = compare a.sortKey b.sortKey := by
  rw [compare_sortKey]
  by_cases hrank : a.rank = b.rank
  · rw [compare_eq_iff_eq.2 hrank, Ordering.eq_then]
    -- of the further parts of two keys of one kind only that of their kind may differ
    cases ha with
    | bool x =>
        cases hb with
        | bool y =>
            show compare x y = (compare x y).then .eq
            rw [Ordering.then_eq]
        | _ => cases hrank
    | @num m hm =>
        cases hb with
        | @num n hn =>
            show compareFloats m.toFloat n.toFloat =
              (compare (extended m.toFloat) (extended n.toFloat)).then .eq
            rw [Ordering.then_eq, compareFloats_eq_compare (Number.not_isNaN_toFloat hm)
              (Number.not_isNaN_toFloat hn)]
        | _ => cases hrank
    | str s =>
        cases hb with
        | str t => rfl
        | _ => cases hrank
    | null | arr _ | obj _ =>
        cases hb with
        | null | arr _ | obj _ => exact compare_eq_iff_eq.2 hrank
        | _ => cases hrank
  · have hdiffer : compare a.rank b.rank ≠ .eq := mt compare_eq_iff_eq.1 hrank
    rw [order_of_rank_ne hrank]
    cases hcompare : compare a.rank b.rank with
    | eq => exact absurd hcompare hdiffer
    | _ => rfl

/-- A finite value is not above another exactly if its key is not. -/
theorem le_eq_decide (ha : a.Finite) (hb : b.Finite) :
    le a b = decide (a.sortKey ≤ b.sortKey) := by
  rw [le, order_eq_compare ha hb, Bool.eq_iff_iff, decide_eq_true_iff, bne_iff_ne]
  exact compare_le_iff_le

/-- Finite values tie exactly if they have one key. -/
theorem order_eq_iff_sortKey (ha : a.Finite) (hb : b.Finite) :
    order a b = .eq ↔ a.sortKey = b.sortKey := by
  rw [order_eq_compare ha hb, compare_eq_iff_eq]

/-- The order turns round where the values change places. -/
theorem order_swap (ha : a.Finite) (hb : b.Finite) : order a b = (order b a).swap := by
  rw [order_eq_compare ha hb, order_eq_compare hb ha, ← cmp_eq_compare, ← cmp_eq_compare, cmp_swap]

/-- A value ties with itself. -/
theorem order_self (ha : a.Finite) : order a a = .eq := (order_eq_iff_sortKey ha ha).2 rfl

/-- What is not above a value is not above what that value is not above. -/
theorem order_trans (ha : a.Finite) (hb : b.Finite) (hc : c.Finite) (hab : order a b ≠ .gt)
    (hbc : order b c ≠ .gt) : order a c ≠ .gt := by
  rw [order_eq_compare ha hb, compare_le_iff_le] at hab
  rw [order_eq_compare hb hc, compare_le_iff_le] at hbc
  rw [order_eq_compare ha hc, compare_le_iff_le]
  exact hab.trans hbc

/-- Values of a lower kind are below those of a higher one. -/
theorem order_of_rank_lt (h : a.rank < b.rank) : order a b = .lt := by
  rw [order_of_rank_ne h.ne, compare_lt_iff_lt.2 h]

end Json

/-! ### Plain equality -/

/-- A number is the same as itself. -/
theorem Number.same_self {n : Number} (h : n.Finite) : n.same n = true := by
  cases n with
  | int z => exact beq_self_eq_true z
  | float x =>
      have hnumber := not_isNaN_of_isFinite h
      exact (beq_iff hnumber hnumber).2 rfl

/-- Numbers that are the same data are equal as doubles. -/
theorem Number.toFloat_beq_of_same {m n : Number} (hm : m.Finite) (h : m.same n = true) :
    (m.toFloat == n.toFloat) = true := by
  have hnumber := Number.not_isNaN_toFloat hm
  cases m with
  | int x =>
      cases n with
      | int y =>
          obtain rfl : x = y := beq_iff_eq.1 h
          exact (beq_iff hnumber hnumber).2 rfl
      | float y => cases h
  | float x =>
      cases n with
      | int y => cases h
      | float y => exact h

/-- Numbers that are the same data have one value as doubles. -/
theorem Number.extended_eq_of_same {m n : Number} (h : m.same n = true) :
    extended m.toFloat = extended n.toFloat := by
  cases m with
  | int x =>
      cases n with
      | int y => rw [beq_iff_eq.1 h]
      | float y => cases h
  | float x =>
      cases n with
      | int y => cases h
      | float y => exact extended_congr h

/-- Numbers that are the same are the same as what the other one is. -/
theorem Number.same_congr {m n : Number} (h : m.same n = true) (k : Number) :
    m.same k = n.same k := by
  cases m with
  | int x =>
      cases n with
      | int y =>
          obtain rfl : x = y := beq_iff_eq.1 h
          rfl
      | float y => cases h
  | float x =>
      cases n with
      | int y => cases h
      | float y =>
          cases k with
          | int z => rfl
          | float z => exact beq_congr h z

namespace Json

mutual
/-- Values that are the same are the same as what the other one is. -/
theorem same_congr {a b : Json} (h : same a b = true) (c : Json) : same a c = same b c := by
  cases a with
  | arr as =>
      cases b with
      | arr bs =>
          cases c with
          | arr cs => exact sameItems_congr h cs
          | _ => rfl
      | _ => cases h
  | obj as =>
      cases b with
      | obj bs =>
          cases c with
          | obj cs => exact sameFields_congr h cs
          | _ => rfl
      | _ => cases h
  | num m =>
      cases b with
      | num n =>
          cases c with
          | num k => exact Number.same_congr h k
          | _ => rfl
      | _ => cases h
  | null =>
      cases b with
      | null => rfl
      | _ => cases h
  | bool x =>
      cases b with
      | bool y => rw [beq_iff_eq.1 h]
      | _ => cases h
  | str s =>
      cases b with
      | str t => rw [beq_iff_eq.1 h]
      | _ => cases h

/-- The same item by item. -/
theorem sameItems_congr {as bs : List Json} (h : sameItems as bs = true) (cs : List Json) :
    sameItems as cs = sameItems bs cs := by
  cases as with
  | nil =>
      cases bs with
      | nil => rfl
      | cons b bs => cases h
  | cons a as =>
      cases bs with
      | nil => cases h
      | cons b bs =>
          obtain ⟨hfirst, hrest⟩ := Bool.and_eq_true_iff.1 h
          cases cs with
          | nil => rfl
          | cons c cs =>
              show (same a c && sameItems as cs) = (same b c && sameItems bs cs)
              rw [same_congr hfirst c, sameItems_congr hrest cs]

/-- The same entry by entry. -/
theorem sameFields_congr {as bs : List (String × Json)} (h : sameFields as bs = true)
    (cs : List (String × Json)) : sameFields as cs = sameFields bs cs := by
  cases as with
  | nil =>
      cases bs with
      | nil => rfl
      | cons b bs => cases h
  | cons a as =>
      obtain ⟨j, a⟩ := a
      cases bs with
      | nil => cases h
      | cons b bs =>
          obtain ⟨k, b⟩ := b
          obtain ⟨hfirst, hrest⟩ := Bool.and_eq_true_iff.1 h
          obtain ⟨hkey, hvalue⟩ := Bool.and_eq_true_iff.1 hfirst
          cases cs with
          | nil => rfl
          | cons c cs =>
              obtain ⟨l, c⟩ := c
              show (j == l && same a c && sameFields as cs) =
                (k == l && same b c && sameFields bs cs)
              rw [beq_iff_eq.1 hkey, same_congr hvalue c, sameFields_congr hrest cs]
end

/-- Items that are the same as themselves make the same list. -/
theorem sameItems_self {items : List Json} (h : ∀ v ∈ items, same v v = true) :
    sameItems items items = true := by
  induction items with
  | nil => rfl
  | cons v items ih =>
      obtain ⟨hv, hitems⟩ := List.forall_mem_cons.1 h
      show (same v v && sameItems items items) = true
      rw [hv, ih hitems, Bool.and_self]

/-- Entries whose values are the same as themselves make the same object. -/
theorem sameFields_self {fields : List (String × Json)}
    (h : ∀ field ∈ fields, same field.2 field.2 = true) : sameFields fields fields = true := by
  induction fields with
  | nil => rfl
  | cons field fields ih =>
      obtain ⟨hfield, hfields⟩ := List.forall_mem_cons.1 h
      show (field.1 == field.1 && same field.2 field.2 && sameFields fields fields) = true
      rw [hfield, ih hfields, beq_self_eq_true, Bool.and_self, Bool.and_self]

/-- A finite value is the same as itself. -/
theorem same_self {v : Json} (h : v.Finite) : same v v = true := by
  induction h with
  | null => rfl
  | bool x => exact beq_self_eq_true x
  | num hn => exact Number.same_self hn
  | str s => exact beq_self_eq_true s
  | arr _ ih => exact sameItems_self ih
  | obj _ ih => exact sameFields_self ih

/-- Values are the same exactly if they are the same as the same values. -/
theorem same_eq_iff {v w : Json} (hw : w.Finite) : same v = same w ↔ same v w = true := by
  constructor
  · intro h
    rw [h, same_self hw]
  · intro h
    exact funext (same_congr h)

/-- Values that are the same have one key. -/
theorem sortKey_eq_of_same {v w : Json} (h : same v w = true) : v.sortKey = w.sortKey := by
  cases v with
  | num m =>
      cases w with
      | num n =>
          show toLex (2, toLex (false, toLex (extended m.toFloat, ""))) = _
          rw [Number.extended_eq_of_same h]
          rfl
      | _ => cases h
  | bool x =>
      cases w with
      | bool y => rw [beq_iff_eq.1 h]
      | _ => cases h
  | str s =>
      cases w with
      | str t => rw [beq_iff_eq.1 h]
      | _ => cases h
  | null =>
      cases w with
      | null => rfl
      | _ => cases h
  | arr items =>
      cases w with
      | arr others => rfl
      | _ => cases h
  | obj fields =>
      cases w with
      | obj others => rfl
      | _ => cases h

end Json

end SeriesQuery
