/-!
# Computations that succeed

A computation of several parts succeeds only if each part does, and gives what the parts give.
-/

namespace SeriesQuery

variable {α β ε : Type}

/-- What a computation goes on from if it succeeds. -/
theorem exists_of_bind_ok {x : Except ε α} {f : α → Except ε β} {b : β} (h : x >>= f = .ok b) :
    ∃ a, x = .ok a ∧ f a = .ok b := by
  cases x with
  | error e => cases h
  | ok a => exact ⟨a, rfl, h⟩

/-- What a result was mapped from. -/
theorem exists_of_map_ok {x : Except ε α} {f : α → β} {b : β} (h : x.map f = .ok b) :
    ∃ a, x = .ok a ∧ f a = b := by
  cases x with
  | error e => cases h
  | ok a => exact ⟨a, rfl, Except.ok.inj h⟩

/-- What a result that is found to have a property is. -/
theorem exists_of_toOption_any {x : Except ε α} {p : α → Bool} (h : x.toOption.any p = true) :
    ∃ a, x = .ok a ∧ p a = true := by
  cases x with
  | error e => cases h
  | ok a => exact ⟨a, rfl, h⟩

section Lists

variable {f : α → Except ε β} {l : List α} {bs : List β}

/-- A list that is mapped succeeds item by item. -/
theorem map_eq_of_mapM_ok (h : l.mapM f = .ok bs) : l.map f = bs.map .ok := by
  induction l generalizing bs with
  | nil =>
      cases h
      rfl
  | cons a l ih =>
      rw [List.mapM_cons] at h
      obtain ⟨b, ha, h⟩ := exists_of_bind_ok h
      obtain ⟨rest, hl, h⟩ := exists_of_bind_ok h
      cases h
      rw [List.map_cons, List.map_cons, ha, ih hl]

/-- A list that is mapped has no item that fails. -/
theorem forall_of_mapM_ok (h : l.mapM f = .ok bs) : ∀ a ∈ l, ∃ b, f a = .ok b := by
  intro a ha
  have hmem : f a ∈ bs.map .ok := by
    rw [← map_eq_of_mapM_ok h]
    exact List.mem_map_of_mem ha
  obtain ⟨b, -, hb⟩ := List.mem_map.1 hmem
  exact ⟨b, hb.symm⟩

/-- What a list is mapped to comes from one of its items. -/
theorem exists_of_mem_mapM_ok (h : l.mapM f = .ok bs) {b : β} (hb : b ∈ bs) :
    ∃ a ∈ l, f a = .ok b := by
  have hmem : .ok b ∈ l.map f := by
    rw [map_eq_of_mapM_ok h]
    exact List.mem_map_of_mem hb
  exact List.mem_map.1 hmem

/-- Where a list is not mapped, the error is that of one of its items. -/
theorem exists_of_mapM_error {e : ε} (h : l.mapM f = .error e) : ∃ a ∈ l, f a = .error e := by
  induction l with
  | nil => cases h
  | cons a l ih =>
      rw [List.mapM_cons] at h
      cases ha : f a with
      | error e' =>
          rw [ha] at h
          cases h
          exact ⟨a, List.mem_cons_self, ha⟩
      | ok b =>
          cases hl : l.mapM f with
          | error e' =>
              rw [ha, hl] at h
              cases h
              obtain ⟨a', ha', herror⟩ := ih hl
              exact ⟨a', List.mem_cons_of_mem a ha', herror⟩
          | ok rest =>
              rw [ha, hl] at h
              cases h

end Lists

end SeriesQuery
