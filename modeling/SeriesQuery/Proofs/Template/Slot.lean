import SeriesQuery.Proofs.Text.Runs
import SeriesQuery.Template

/-!
# What slots look like

A slot is two opening braces, a dotted path and two closing braces, with spaces, tabs and line ends
around the path. A dotted path is a name that starts with a letter or an underscore and any number
of steps, each a point and letters, digits or underscores. `Template.readSlot?_eq_some_iff` says
that the reader of slots finds a slot exactly where a text starts with one.
-/

namespace SeriesQuery

namespace Path

/-- A character that a path may start with. -/
def StartsName (c : Char) : Prop := ('A' ≤ c ∧ c ≤ 'Z') ∨ ('a' ≤ c ∧ c ≤ 'z') ∨ c = '_'

instance (c : Char) : Decidable (StartsName c) := inferInstanceAs (Decidable (_ ∨ _))

/-- A character of a name or a step. -/
def InName (c : Char) : Prop := StartsName c ∨ ('0' ≤ c ∧ c ≤ '9')

/-- The text of steps. -/
def stepsText (steps : List String) : List Char := steps.flatMap fun step => '.' :: step.toList

/-- The text of a path. -/
def text (p : Path) : List Char := p.root.toList ++ stepsText p.steps

/-- A step has at least one character and is made of those of names. -/
def IsStep (step : String) : Prop := step.toList ≠ [] ∧ ∀ c ∈ step.toList, InName c

/-- A name, and any number of steps. -/
structure IsDotted (p : Path) : Prop where
  root : ∃ c cs, p.root.toList = c :: cs ∧ StartsName c ∧ ∀ x ∈ cs, InName x
  steps : ∀ step ∈ p.steps, IsStep step

/-- No path goes on with a text. -/
def Ends (rest : List Char) : Prop := ∀ c ∈ rest.head?, isNameChar c = false ∧ c ≠ '.'

theorem isNameStart_iff {c : Char} : isNameStart c = true ↔ StartsName c := by
  simp [isNameStart, Text.isAsciiLetter, StartsName, or_assoc]

theorem isNameChar_iff {c : Char} : isNameChar c = true ↔ InName c := by
  simp only [isNameChar, Text.isAsciiAlphanumeric, Text.isAsciiLetter, Text.isAsciiDigit, InName,
    StartsName, Bool.or_eq_true, Bool.and_eq_true, decide_eq_true_eq, beq_iff_eq]
  tauto

/-- The code points of the characters of paths lie between those of the point and of `z`. -/
theorem toNat_bounds {c : Char} (h : InName c ∨ c = '.') : 46 ≤ c.toNat ∧ c.toNat ≤ 122 := by
  have hrange {a b : Char} (h : a ≤ c ∧ c ≤ b) : a.toNat ≤ c.toNat ∧ c.toNat ≤ b.toNat := by
    simpa [Char.le_def, UInt32.le_iff_toNat_le] using h
  rcases h with ((h | h | rfl) | h) | rfl
  · exact ⟨le_trans (by decide) (hrange h).1, le_trans (hrange h).2 (by decide)⟩
  · exact ⟨le_trans (by decide) (hrange h).1, le_trans (hrange h).2 (by decide)⟩
  · decide
  · exact ⟨le_trans (by decide) (hrange h).1, le_trans (hrange h).2 (by decide)⟩
  · decide

/-- The characters of names at the start of a text, and what follows them. -/
theorem of_span {s name after : List Char} (h : s.span isNameChar = (name, after)) :
    s = name ++ after ∧ ∀ c ∈ name, InName c := by
  rw [List.span_eq_takeWhile_dropWhile] at h
  cases h
  exact ⟨List.takeWhile_append_dropWhile.symm, fun c hc =>
    isNameChar_iff.1 (List.mem_takeWhile_imp hc)⟩

/-- A run of characters of names is found whole where no other follows. -/
theorem span_name {name after : List Char} (hname : ∀ c ∈ name, InName c)
    (hafter : ∀ c ∈ after.head?, isNameChar c = false) :
    (name ++ after).span isNameChar = (name, after) :=
  Text.span_run (List.all_eq_true.2 fun c hc => isNameChar_iff.2 (hname c hc)) hafter

/-- After a name or a step comes a point, or a text that no path goes on with. -/
theorem head_stepsText (steps : List String) {rest : List Char} (hrest : Ends rest) :
    ∀ c ∈ (stepsText steps ++ rest).head?, isNameChar c = false := by
  cases steps with
  | nil => exact fun c hc => (hrest c hc).1
  | cons step steps =>
      intro c hc
      obtain rfl : '.' = c := Option.some.inj hc
      decide

/-- Steps that are read stand in the text. -/
theorem of_readSteps {fuel : Nat} {s left : List Char} {steps : List String}
    (h : readSteps fuel s = (steps, left)) :
    (∀ step ∈ steps, IsStep step) ∧ s = stepsText steps ++ left := by
  fun_induction readSteps fuel s generalizing left steps with
  | case1 fuel rest after hspan =>
      cases h
      simp [stepsText]
  | case2 fuel rest name after hname hspan more left' hread ih =>
      cases h
      obtain ⟨hmore, hafter⟩ := ih hread
      obtain ⟨hrest, hchars⟩ := of_span hspan
      refine ⟨?_, by simp [stepsText, hrest, hafter]⟩
      intro step hmem
      rcases List.mem_cons.1 hmem with rfl | hmem
      · rw [IsStep, String.toList_ofList]
        exact ⟨hname, hchars⟩
      · exact hmore step hmem
  | case3 fuel s hother =>
      cases h
      simp [stepsText]

/-- Steps that stand in a text are read. -/
theorem readSteps_text {steps : List String} (hsteps : ∀ step ∈ steps, IsStep step)
    {rest : List Char} (hrest : Ends rest) {fuel : Nat} (hfuel : steps.length ≤ fuel) :
    readSteps fuel (stepsText steps ++ rest) = (steps, rest) := by
  induction steps generalizing fuel with
  | nil =>
      change readSteps fuel rest = ([], rest)
      rw [readSteps]
      rintro _ after - rfl
      exact (hrest '.' rfl).2 rfl
  | cons step steps ih =>
      obtain ⟨fuel, rfl⟩ : ∃ more, fuel = more + 1 :=
        ⟨fuel - 1, by rw [List.length_cons] at hfuel; omega⟩
      obtain ⟨hne, hchars⟩ := hsteps step List.mem_cons_self
      have hmore := ih (fun step hmem => hsteps step (List.mem_cons_of_mem _ hmem))
        (Nat.le_of_succ_le_succ hfuel)
      have hspan := span_name hchars (head_stepsText steps hrest)
      have htext : stepsText (step :: steps) ++ rest =
          '.' :: (step.toList ++ (stepsText steps ++ rest)) := by simp [stepsText]
      rw [htext, readSteps, hspan]
      split
      · next heq => exact absurd (congrArg Prod.fst heq) hne
      · next heq =>
          obtain ⟨rfl, rfl⟩ := Prod.mk.inj heq
          rw [hmore, String.ofList_toList]

/-- There are no more steps than characters of their text. -/
theorem length_steps_le (steps : List String) : steps.length ≤ (stepsText steps).length := by
  induction steps with
  | nil => exact Nat.le_refl 0
  | cons step steps ih =>
      rw [stepsText] at ih ⊢
      rw [List.flatMap_cons, List.length_append, List.length_cons, List.length_cons]
      omega

/-- A path that is read is a dotted path and stands in the text. -/
theorem of_read? {s rest : List Char} {p : Path} (h : read? s = some (p, rest)) :
    p.IsDotted ∧ s = p.text ++ rest := by
  cases s with
  | nil => cases h
  | cons c cs =>
      rw [read?] at h
      split at h
      · next hstart =>
          rcases hspan : cs.span isNameChar with ⟨name, after⟩
          rcases hread : readSteps after.length after with ⟨steps, left⟩
          rw [hspan] at h
          simp only [hread] at h
          cases h
          obtain ⟨hcs, hname⟩ := of_span hspan
          obtain ⟨hsteps, hafter⟩ := of_readSteps hread
          refine ⟨⟨⟨c, name, String.toList_ofList, isNameStart_iff.1 hstart, hname⟩, hsteps⟩, ?_⟩
          simp only [text, String.toList_ofList, hcs, hafter, List.cons_append, List.append_assoc]
      · cases h

/-- A dotted path that stands in a text is read. -/
theorem read?_text {p : Path} (hp : p.IsDotted) {rest : List Char} (hrest : Ends rest) :
    read? (p.text ++ rest) = some (p, rest) := by
  obtain ⟨root, steps⟩ := p
  obtain ⟨⟨c, cs, hroot, hstart, hcs⟩, hsteps⟩ := hp
  have htext : text ⟨root, steps⟩ ++ rest = c :: (cs ++ (stepsText steps ++ rest)) := by
    rw [text, hroot, List.cons_append, List.cons_append, List.append_assoc]
  have hspan := span_name hcs (head_stepsText steps hrest)
  have hlength : steps.length ≤ (stepsText steps ++ rest).length :=
    Nat.le_trans (length_steps_le steps) (by rw [List.length_append]; omega)
  have hname : String.ofList (c :: cs) = root := by rw [← hroot, String.ofList_toList]
  rw [htext, read?, if_pos (isNameStart_iff.2 hstart), hspan]
  simp only [readSteps_text hsteps hrest hlength, hname]

end Path

namespace Template

/-- A character that may stand around a path. -/
def InGap (c : Char) : Prop := c = ' ' ∨ c = '\t' ∨ c = '\r' ∨ c = '\n'

/-- A slot for a dotted path. -/
def IsSlot (s : List Char) (p : Path) : Prop :=
  p.IsDotted ∧ ∃ left right, (∀ c ∈ left, InGap c) ∧ (∀ c ∈ right, InGap c) ∧
    s = opening ++ left ++ p.text ++ right ++ closing

/-- A text starts with a slot. -/
def Opens (s : List Char) : Prop := ∃ t p rest, IsSlot t p ∧ s = t ++ rest

theorem isGap_iff {c : Char} : isGap c = true ↔ InGap c := by
  simp [isGap, InGap, or_assoc]

/-- A gap and what follows it. -/
theorem exists_gap (s : List Char) :
    ∃ gap, (∀ c ∈ gap, InGap c) ∧ s = gap ++ s.dropWhile isGap :=
  ⟨s.takeWhile isGap, fun _ hc => isGap_iff.1 (List.mem_takeWhile_imp hc),
    List.takeWhile_append_dropWhile.symm⟩

/-- A gap is dropped up to what follows it. -/
theorem dropWhile_gap {gap rest : List Char} (hgap : ∀ c ∈ gap, InGap c)
    (hrest : ∀ c ∈ rest.head?, isGap c = false) : (gap ++ rest).dropWhile isGap = rest :=
  (Text.takeWhile_run (List.all_eq_true.2 fun c hc => isGap_iff.2 (hgap c hc)) hrest).2

/-- No path goes on with a gap and closing braces. -/
theorem ends_gap {gap : List Char} (hgap : ∀ c ∈ gap, InGap c) (rest : List Char) :
    Path.Ends (gap ++ (closing ++ rest)) := by
  intro c hc
  cases gap with
  | nil =>
      obtain rfl : '\x7d' = c := Option.some.inj hc
      decide
  | cons d gap =>
      obtain rfl : d = c := Option.some.inj hc
      rcases hgap d List.mem_cons_self with rfl | rfl | rfl | rfl <;> decide

/-- A dotted path starts with no gap. -/
theorem head_text {p : Path} (hp : p.IsDotted) (rest : List Char) :
    ∀ c ∈ (p.text ++ rest).head?, isGap c = false := by
  obtain ⟨c, cs, hroot, hstart, -⟩ := hp.root
  intro d hd
  rw [Path.text, hroot] at hd
  obtain rfl : c = d := Option.some.inj hd
  rw [Bool.eq_false_iff, Ne, isGap_iff]
  rintro (rfl | rfl | rfl | rfl) <;> revert hstart <;> decide

/-- A slot is found exactly where a text starts with one. -/
theorem readSlot?_eq_some_iff {s rest : List Char} {p : Path} :
    readSlot? s = some (p, rest) ↔ ∃ t, IsSlot t p ∧ s = t ++ rest := by
  constructor
  · intro h
    simp only [readSlot?, bind, Option.bind_eq_some_iff] at h
    obtain ⟨inner, hopening, ⟨path, after⟩, hpath, last, hclosing, h⟩ := h
    cases h
    rw [Text.after?_eq_some_iff] at hopening hclosing
    obtain ⟨hp, htext⟩ := Path.of_read? hpath
    obtain ⟨left, hleft, hinner⟩ := exists_gap inner
    obtain ⟨right, hright, hafter⟩ := exists_gap after
    refine ⟨_, ⟨hp, left, right, hleft, hright, rfl⟩, ?_⟩
    rw [hopening, hinner, htext, hafter, hclosing]
    simp only [List.append_assoc]
  · rintro ⟨t, ⟨hp, left, right, hleft, hright, rfl⟩, rfl⟩
    have hopening : Text.after? opening
        (opening ++ left ++ p.text ++ right ++ closing ++ rest) =
          some (left ++ (p.text ++ (right ++ (closing ++ rest)))) := by
      rw [Text.after?_eq_some_iff]
      simp only [List.append_assoc]
    have hpath := Path.read?_text hp (ends_gap hright rest)
    have hclosing : Text.after? closing (closing ++ rest) = some rest :=
      Text.after?_eq_some_iff.2 rfl
    have hbrace : ∀ c ∈ (closing ++ rest).head?, isGap c = false := by
      intro c hc
      obtain rfl : '\x7d' = c := Option.some.inj hc
      decide
    rw [readSlot?, hopening, Option.bind_eq_bind, Option.bind_some,
      dropWhile_gap hleft (head_text hp _), hpath, Option.bind_eq_bind, Option.bind_some]
    simp only [dropWhile_gap hright hbrace, hclosing]
    rfl

/-- A text starts with a slot exactly where one is found. -/
theorem opens_iff {s : List Char} : Opens s ↔ ∃ p rest, readSlot? s = some (p, rest) := by
  simp only [Opens, readSlot?_eq_some_iff]
  constructor
  · rintro ⟨t, p, rest, h⟩
    exact ⟨p, rest, t, h⟩
  · rintro ⟨p, rest, t, h⟩
    exact ⟨t, p, rest, h⟩

/-- The slot that a text starts with is the only one. -/
theorem IsSlot.unique {t t' s s' : List Char} {p p' : Path} (h : IsSlot t p) (h' : IsSlot t' p')
    (heq : t ++ s = t' ++ s') : p = p' ∧ s = s' := by
  have hread : readSlot? (t ++ s) = some (p, s) := readSlot?_eq_some_iff.2 ⟨t, h, rfl⟩
  rw [readSlot?_eq_some_iff.2 ⟨t', h', heq⟩] at hread
  cases hread
  exact ⟨rfl, rfl⟩

/-- A slot is not empty. -/
theorem IsSlot.length_pos {t : List Char} {p : Path} (h : IsSlot t p) : 0 < t.length := by
  obtain ⟨-, left, right, -, -, rfl⟩ := h
  simp [opening]

/-- A slot starts with its opening braces. -/
theorem IsSlot.opening_prefix {t : List Char} {p : Path} (h : IsSlot t p) (s : List Char) :
    opening <+: t ++ s := by
  obtain ⟨-, left, right, -, -, rfl⟩ := h
  simp only [List.append_assoc]
  exact List.prefix_append _ _

end Template

end SeriesQuery
