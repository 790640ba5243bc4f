import SeriesQuery.Proofs.Json.Order
import SeriesQuery.Proofs.Number.Integers

/-!
# Comparisons of the expression language

Equality looks into values, and the order looks at their kinds; both compare two numbers as doubles.
They agree on all values but two arrays or two objects, which the order never tells apart
(`comparisons_agree`). Items are compared plainly, so that arrays of equal numbers are equal only if
the numbers are the same data.
-/

namespace SeriesQuery

/-- Numbers that are different data with one nearest double. -/
def Number.Merged : Number → Number → Prop
  | int x, int y => x ≠ y ∧ Binary64.nearest x = Binary64.nearest y
  | int z, float x => Binary64.value? x = some (Binary64.nearest z : ℚ)
  | float x, int z => Binary64.value? x = some (Binary64.nearest z : ℚ)
  | float _, float _ => False

/-- A number of the data format is an integer or a finite double. -/
theorem Number.Valid.finite {n : Number} (h : n.Valid) : n.Finite := by
  cases n with
  | int z => trivial
  | float x => exact h

/-- Numbers with one nearest double are the same data unless they are merged. -/
theorem Number.same_of_rounded? {m n : Number} (hm : m.Valid) (hn : n.Valid)
    (hmerged : ¬Merged m n) (h : m.rounded? = n.rounded?) : m.same n = true := by
  cases m with
  | int x =>
      cases n with
      | int y =>
          have hnearest : Binary64.nearest x = Binary64.nearest y := by
            exact_mod_cast Option.some.inj h
          rw [same, beq_iff_eq]
          by_contra hne
          exact hmerged ⟨hne, hnearest⟩
      | float y => exact absurd h.symm hmerged
  | float x =>
      cases n with
      | int y => exact absurd h hmerged
      | float y => exact (toFloat_beq_iff hm hn).2 h

namespace Json

/-- Whether both values are arrays, or both are objects. -/
def SameContainer : Json → Json → Prop
  | arr _, arr _ => True
  | obj _, obj _ => True
  | _, _ => False

/-- Whether both values are numbers that are merged. -/
def MergedNumbers : Json → Json → Prop
  | num m, num n => m.Merged n
  | _, _ => False

variable {a b : Json}

/-- Values that are the same data are of one kind. -/
theorem rank_eq_of_same (h : same a b = true) : a.rank = b.rank := by
  unfold same at h
  split at h
  · rfl
  · rfl
  · rfl
  · rfl
  · rfl
  · rfl
  · cases h

/-- Equal values are of one kind. -/
theorem rank_eq_of_equal (h : equal a b = true) : a.rank = b.rank := by
  unfold equal at h
  split at h
  · rfl
  · exact rank_eq_of_same h

/-- Two arrays, and two objects, are of one kind. -/
theorem rank_eq_of_sameContainer (h : SameContainer a b) : a.rank = b.rank := by
  unfold SameContainer at h
  split at h
  · rfl
  · rfl
  · cases h

/-- Doubles that are numbers tie exactly if they are equal. -/
theorem compareFloats_eq_iff {x y : Float} (hx : x.isNaN = false) (hy : y.isNaN = false) :
    compareFloats x y = .eq ↔ (x == y) = true := by
  rw [compareFloats_eq_compare hx hy, Binary64.beq_iff hx hy, compare_eq_iff_eq]

/-- Arrays of one item are equal if the items are the same data. -/
theorem equal_singletons (a b : Json) : equal (arr [a]) (arr [b]) = same a b := by
  show (same a b && true) = same a b
  rw [Bool.and_true]

section Valid

variable (ha : ∀ n, a = .num n → n.Valid) (hb : ∀ n, b = .num n → n.Valid)

include ha

/-- Values that are the same data are equal. -/
theorem equal_of_same (h : same a b = true) : equal a b = true := by
  cases a with
  | num m =>
      cases b with
      | num n => exact Number.toFloat_beq_of_same (ha m rfl).finite h
      | _ => cases h
  | _ => exact h

include hb

/-- Values tie exactly if they are equal, or both arrays, or both objects. -/
theorem order_eq_iff : order a b = .eq ↔ equal a b = true ∨ SameContainer a b := by
  by_cases hrank : a.rank = b.rank
  · cases a with
    | null =>
        cases b with
        | null => exact iff_of_true rfl (.inl rfl)
        | _ => cases hrank
    | bool x =>
        cases b with
        | bool y =>
            show compare x y = .eq ↔ (x == y) = true ∨ False
            rw [compare_eq_iff_eq, beq_iff_eq, or_false]
        | _ => cases hrank
    | num m =>
        cases b with
        | num n =>
            show compareFloats m.toFloat n.toFloat = .eq ↔ (m.toFloat == n.toFloat) = true ∨ False
            rw [compareFloats_eq_iff (ha m rfl).not_isNaN (hb n rfl).not_isNaN, or_false]
        | _ => cases hrank
    | str s =>
        cases b with
        | str t =>
            show compare s t = .eq ↔ (s == t) = true ∨ False
            rw [compare_eq_iff_eq, beq_iff_eq, or_false]
        | _ => cases hrank
    | arr items =>
        cases b with
        | arr others => exact iff_of_true (compare_eq_iff_eq.2 rfl) (.inr trivial)
        | _ => cases hrank
    | obj fields =>
        cases b with
        | obj others => exact iff_of_true (compare_eq_iff_eq.2 rfl) (.inr trivial)
        | _ => cases hrank
  · rw [order_of_rank_ne hrank, compare_eq_iff_eq]
    refine iff_of_false hrank ?_
    rintro (hequal | hsame)
    · exact hrank (rank_eq_of_equal hequal)
    · exact hrank (rank_eq_of_sameContainer hsame)

/-- Equal values are the same data unless they are merged numbers. -/
theorem same_of_equal (hmerged : ¬MergedNumbers a b) (h : equal a b = true) : same a b = true := by
  cases a with
  | num m =>
      cases b with
      | num n =>
          exact Number.same_of_rounded? (ha m rfl) (hb n rfl) hmerged
            ((Number.toFloat_beq_iff (ha m rfl) (hb n rfl)).1 h)
      | _ => cases h
  | _ => exact h

end Valid

end Json

/-- Whether an operation on two values is true. -/
def Operator.Holds (op : Operator) (a b : Json) : Prop := op.apply a b = .bool true

namespace Operator

variable {a b : Json}

/-- An operation that tests something is true exactly if the test succeeds. -/
theorem holds_iff_of_apply (op : Operator) {test : Bool} (h : op.apply a b = .bool test) :
    op.Holds a b ↔ test = true := by
  rw [Holds, h]
  exact ⟨Json.bool.inj, congrArg Json.bool⟩

/-- Equality. -/
theorem holds_eq_iff : Holds .eq a b ↔ a.equal b = true := holds_iff_of_apply .eq rfl

/-- A value is below another exactly if it is ordered before it. -/
theorem holds_lt_iff : Holds .lt a b ↔ a.order b = .lt := by
  rw [holds_iff_of_apply .lt rfl, beq_iff_eq]

/-- A value is above another exactly if it is ordered behind it. -/
theorem holds_gt_iff : Holds .gt a b ↔ a.order b = .gt := by
  rw [holds_iff_of_apply .gt rfl, beq_iff_eq]

/-- A value is at most another exactly if it is not above it. -/
theorem holds_le_iff : Holds .le a b ↔ ¬Holds .gt a b := by
  rw [holds_iff_of_apply .le rfl, holds_gt_iff, bne_iff_ne]

/-- A value is at least another exactly if it is not below it. -/
theorem holds_ge_iff : Holds .ge a b ↔ ¬Holds .lt a b := by
  rw [holds_iff_of_apply .ge rfl, holds_lt_iff, bne_iff_ne]

/-- Whether exactly one of less, equal and greater is true of two values. -/
def Decided (a b : Json) : Prop :=
  (Holds .lt a b ∧ ¬Holds .eq a b ∧ ¬Holds .gt a b) ∨
    (¬Holds .lt a b ∧ Holds .eq a b ∧ ¬Holds .gt a b) ∨
      (¬Holds .lt a b ∧ ¬Holds .eq a b ∧ Holds .gt a b)

/-- A value is not both below and above another. -/
theorem not_holds_gt_of_lt (h : Holds .lt a b) : ¬Holds .gt a b := by
  rw [holds_lt_iff] at h
  rw [holds_gt_iff, h]
  exact nofun

/-- Values of which neither is below the other are equal, or both arrays, or both objects. -/
theorem neither_iff (ha : ∀ n, a = .num n → n.Valid) (hb : ∀ n, b = .num n → n.Valid) :
    ¬Holds .lt a b ∧ ¬Holds .gt a b ↔ Holds .eq a b ∨ Json.SameContainer a b := by
  rw [holds_eq_iff, ← Json.order_eq_iff ha hb, holds_lt_iff, holds_gt_iff]
  cases a.order b <;> simp

/-- Where equal values are those of which neither is below the other, one of the three is true. -/
theorem decided_of_neither (h : ¬Holds .lt a b ∧ ¬Holds .gt a b ↔ Holds .eq a b) : Decided a b := by
  by_cases hlt : Holds .lt a b
  · exact .inl ⟨hlt, fun heq => (h.2 heq).1 hlt, not_holds_gt_of_lt hlt⟩
  · by_cases hgt : Holds .gt a b
    · exact .inr (.inr ⟨hlt, fun heq => (h.2 heq).2 hgt, hgt⟩)
    · exact .inr (.inl ⟨hlt, h.1 ⟨hlt, hgt⟩, hgt⟩)

/-- Equality and order agree. Exactly one of less, equal and greater is true of two values that are
neither both arrays nor both objects, and equality is less or equal in both directions; two arrays,
and two objects, tie. Equal arrays of one item have equal items, and the other way round unless the
items are merged numbers. -/
theorem comparisons_agree (ha : ∀ n, a = .num n → n.Valid) (hb : ∀ n, b = .num n → n.Valid) :
    (¬Json.SameContainer a b →
      Decided a b ∧ (Holds .eq a b ↔ Holds .le a b ∧ Holds .ge a b)) ∧
    (Json.SameContainer a b →
      ¬Holds .lt a b ∧ ¬Holds .gt a b ∧ Holds .le a b ∧ Holds .ge a b) ∧
    (Holds .eq a b → Holds .le a b ∧ Holds .ge a b) ∧
    (Holds .eq (.arr [a]) (.arr [b]) → Holds .eq a b) ∧
    (¬Json.MergedNumbers a b → Holds .eq a b → Holds .eq (.arr [a]) (.arr [b])) := by
  have hneither := neither_iff ha hb
  rw [holds_le_iff, holds_ge_iff, holds_eq_iff (a := .arr [a]), Json.equal_singletons]
  refine ⟨?_, ?_, ?_, ?_, ?_⟩
  · intro hcontainer
    rw [or_iff_left hcontainer] at hneither
    exact ⟨decided_of_neither hneither, hneither.symm.trans and_comm⟩
  · intro hcontainer
    obtain ⟨hlt, hgt⟩ := hneither.2 (.inr hcontainer)
    exact ⟨hlt, hgt, hgt, hlt⟩
  · intro heq
    exact (hneither.2 (.inl heq)).symm
  · intro hsame
    exact holds_eq_iff.2 (Json.equal_of_same ha hsame)
  · intro hmerged heq
    exact Json.same_of_equal ha hb hmerged (holds_eq_iff.1 heq)

/-- A number is below a text, arrays of one number are equal, and arrays of two numbers tie. -/
theorem comparisons_agree_one :
    Decided (.int 1) (.str "1") ∧ Holds .eq (.arr [.int 1]) (.arr [.int 1]) ∧
      ¬Holds .lt (.arr [.int 1]) (.arr [.int 2]) ∧ ¬Holds .gt (.arr [.int 1]) (.arr [.int 2]) := by
  have hone : ∀ n, Json.int 1 = .num n → n.Valid := by
    intro n hn
    obtain rfl : Number.int 1 = n := Json.num.inj hn
    exact ⟨by decide, by decide⟩
  have htext : ∀ n, Json.str "1" = .num n → n.Valid := nofun
  have harray : ∀ items n, Json.arr items = .num n → n.Valid := nofun
  refine ⟨?_, ?_, ?_⟩
  · exact ((comparisons_agree hone htext).1 id).1
  · obtain ⟨-, -, -, -, hwrap⟩ := comparisons_agree hone hone
    exact hwrap (fun hmerged => hmerged.1 rfl) rfl
  · obtain ⟨hlt, hgt, -⟩ := (comparisons_agree (harray [.int 1]) (harray [.int 2])).2.1 trivial
    exact ⟨hlt, hgt⟩

/-- Of two arrays neither is below the other, though they are not equal. An integer equals a double,
but an array of the one does not equal an array of the other. -/
theorem arrays_tie :
    (¬Holds .lt (.arr [.int 1]) (.arr [.int 2]) ∧ ¬Holds .eq (.arr [.int 1]) (.arr [.int 2]) ∧
      ¬Holds .gt (.arr [.int 1]) (.arr [.int 2])) ∧
    Holds .eq (.int 1) (.num (.float (Float.ofBits 0x3FF0000000000000))) ∧
      ¬Holds .eq (.arr [.int 1]) (.arr [.num (.float (Float.ofBits 0x3FF0000000000000))]) := by
  rw [holds_lt_iff, holds_gt_iff, holds_eq_iff, holds_eq_iff, holds_eq_iff, Json.equal_singletons,
    Json.equal_singletons]
  refine ⟨⟨by decide, by decide, by decide⟩, rfl, by decide⟩

end Operator

end SeriesQuery
