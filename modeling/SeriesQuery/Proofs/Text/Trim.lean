import SeriesQuery.Proofs.Text.Runs
import SeriesQuery.Text.Split

/-!
# What trimming leaves

Every text is blanks, a bare text and blanks again, where a bare text neither starts nor ends with a
blank. Trimming leaves the bare text (`exists_trimChars`, `trimChars_around`), and the three parts of
a text that is not all blank are determined by it (`around_inj`).
-/

namespace SeriesQuery.Text

/-- A text of blanks. -/
def AllBlank (s : List Char) : Prop := ∀ c ∈ s, isBlank c = true

/-- A text that neither starts nor ends with a blank. -/
structure Bare (s : List Char) : Prop where
  head : ∀ c ∈ s.head?, isBlank c = false
  last : ∀ c ∈ s.getLast?, isBlank c = false

variable {left left' right right' s s' : List Char}

/-- A text without blanks is bare. -/
theorem bare_of_forall (h : ∀ c ∈ s, isBlank c = false) : Bare s where
  head c hc := h c (List.mem_of_mem_head? hc)
  last c hc := h c (List.mem_of_mem_getLast? hc)

/-- A text is bare if a check finds no blanks in it. -/
theorem bare_of_all (h : s.all (fun c => !isBlank c) = true) : Bare s :=
  bare_of_forall fun c hc => by simpa using List.all_eq_true.1 h c hc

/-- Blanks in front are dropped up to a text that does not start with one. -/
theorem trimLeft_blanks (hleft : AllBlank left) (hs : ∀ c ∈ s.head?, isBlank c = false) :
    trimLeft (left ++ s) = s :=
  (takeWhile_run (List.all_eq_true.2 hleft) hs).2

/-- Blanks at the end are dropped down to a text that does not end with one. -/
theorem trimRight_blanks (hright : AllBlank right) (hs : ∀ c ∈ s.getLast?, isBlank c = false) :
    trimRight (s ++ right) = s := by
  have hreverse : trimLeft (right.reverse ++ s.reverse) = s.reverse :=
    trimLeft_blanks (fun c hc => hright c (List.mem_reverse.1 hc)) (by simpa using hs)
  rw [← List.reverse_append] at hreverse
  exact (congrArg List.reverse hreverse).trans s.reverse_reverse

/-- Of a bare text between blanks the blanks are dropped. -/
theorem trimChars_around (hleft : AllBlank left) (hright : AllBlank right) (hs : Bare s) :
    trimChars (left ++ s ++ right) = s := by
  cases s with
  | nil =>
      have hblank : AllBlank (left ++ right) := fun c hc =>
        (List.mem_append.1 hc).elim (hleft c) (hright c)
      have hdropped : trimLeft (left ++ right ++ []) = [] := trimLeft_blanks hblank (by simp)
      rw [trimChars, List.append_nil, ← List.append_nil (left ++ right), hdropped]
      rfl
  | cons c s =>
      have hdropped : trimLeft (left ++ (c :: s ++ right)) = c :: s ++ right :=
        trimLeft_blanks hleft hs.head
      rw [trimChars, List.append_assoc, hdropped, trimRight_blanks hright hs.last]

/-- What is left without the blanks in front does not start with one. -/
theorem head_trimLeft (s : List Char) : ∀ c ∈ (trimLeft s).head?, isBlank c = false := by
  intro c hc
  have hhead := List.head?_dropWhile_not isBlank s
  rw [← trimLeft, hc] at hhead
  exact hhead

/-- A text is what trimming leaves of it, between blanks. -/
theorem exists_trimChars (s : List Char) :
    ∃ left right, AllBlank left ∧ AllBlank right ∧ Bare (trimChars s) ∧
      s = left ++ trimChars s ++ right := by
  have hright : trimChars s ++ ((trimLeft s).reverse.takeWhile isBlank).reverse = trimLeft s := by
    rw [trimChars, trimRight, ← List.reverse_append, List.takeWhile_append_dropWhile,
      List.reverse_reverse]
  refine ⟨s.takeWhile isBlank, ((trimLeft s).reverse.takeWhile isBlank).reverse,
    fun c hc => List.mem_takeWhile_imp hc,
    fun c hc => List.mem_takeWhile_imp (List.mem_reverse.1 hc), ⟨fun c hc => ?_, fun c hc => ?_⟩, ?_⟩
  · refine head_trimLeft s c ?_
    rw [← hright, List.head?_append, hc]
    rfl
  · rw [trimChars, trimRight, List.getLast?_reverse] at hc
    exact head_trimLeft _ c hc
  · rw [List.append_assoc, hright]
    exact List.takeWhile_append_dropWhile.symm

/-- Trimming keeps exactly the bare texts as they are. -/
theorem trimChars_eq_self_iff : trimChars s = s ↔ Bare s := by
  constructor
  · intro h
    obtain ⟨_, _, -, -, hbare, -⟩ := exists_trimChars s
    rwa [h] at hbare
  · intro h
    have hnil : AllBlank [] := by simp [AllBlank]
    simpa using trimChars_around hnil hnil h

/-- The bare text and the blanks around it are determined by the whole. -/
theorem around_inj (hleft : AllBlank left) (hright : AllBlank right) (hs : Bare s) (hne : s ≠ [])
    (hleft' : AllBlank left') (hright' : AllBlank right') (hs' : Bare s')
    (h : left ++ s ++ right = left' ++ s' ++ right') : left = left' ∧ s = s' ∧ right = right' := by
  obtain rfl : s = s' := by
    rw [← trimChars_around hleft hright hs, h, trimChars_around hleft' hright' hs']
  have hfront (right : List Char) : ∀ c ∈ (s ++ right).head?, isBlank c = false := by
    rw [List.head?_append_of_ne_nil _ hne]
    exact hs.head
  have htake {left right : List Char} (hleft : AllBlank left) :
      (left ++ (s ++ right)).takeWhile isBlank = left :=
    (takeWhile_run (List.all_eq_true.2 hleft) (hfront right)).1
  rw [List.append_assoc, List.append_assoc] at h
  obtain rfl : left = left' := by rw [← htake hleft, h, htake hleft']
  exact ⟨rfl, rfl, List.append_cancel_left (List.append_cancel_left h)⟩

/-- A text that is not blank is trimmed. -/
theorem bare_of_nonBlank? {source : Option String} {text : String}
    (h : nonBlank? source = some text) : Bare text.toList ∧ text ≠ "" := by
  obtain ⟨hmap, hne⟩ := Option.filter_eq_some_iff.1 h
  obtain ⟨s, -, rfl⟩ := Option.map_eq_some_iff.1 hmap
  refine ⟨?_, by simpa using hne⟩
  rw [trim, String.toList_ofList, ← trimChars_eq_self_iff, trimChars_trimChars]

end SeriesQuery.Text
