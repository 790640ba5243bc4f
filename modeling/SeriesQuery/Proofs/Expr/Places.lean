import SeriesQuery.Proofs.Expr.Tokens

/-!
# Where operands stand

A text is read from the left, so each reader starts at a cut of the text. `OperandAt source s` says
what stands in front of the cut before `s` where an operand is read: nothing but spaces, a sign, or
one of the words that stand between operands. `CutAt source s` says only that the cut goes through
no word. The lemmas say from which cut to which the token readers go.
-/

namespace SeriesQuery.Expr

open Token

/-- The words that stand between operands or in front of one. -/
def operatorWords : List String := ["AND", "OR", "NOT", "IN"]

/-- Whether a word is one of these in some letter case. -/
def IsReserved (word : List Char) : Prop :=
  ∃ keyword ∈ operatorWords, isKeyword keyword word = true

/-- The characters that an operand may come after. -/
def signs : List Char :=
  ['(', '[', ',', '!', '-', '+', '*', '/', '%', '=', '<', '>', '&', '|']

/-- No word goes over the cut between two parts of a text, and no point ends the first. -/
def Parted (before after : List Char) : Prop :=
  ∀ c ∈ before.getLast?,
    c ≠ '.' ∧ (isWordStart c = true → ∀ d ∈ after.head?, isWordChar d = false)

/-- The texts that an operand may come after. -/
inductive Due : List Char → Prop where
  | start : Due []
  | sign (before : List Char) {c : Char} (h : c ∈ signs) : Due (before ++ [c])
  | word {before word : List Char} (hparted : Parted before word) (h : IsReserved word) :
      Due (before ++ word)
  | space {before : List Char} {c : Char} (h : Due before) (hc : isSpace c = true) :
      Due (before ++ [c])

/-- The texts that end in an operand: in a bracket, a quotation mark, a digit, or a word of letters
that does not stand between operands. -/
inductive EndsOperand : List Char → Prop where
  | char (before : List Char) {c : Char}
      (h : c ∈ [')', ']', '\'', '"'] ∨ Text.isAsciiDigit c = true) : EndsOperand (before ++ [c])
  | word {before word : List Char} (hbefore : ∀ c ∈ before.getLast?, isWordStart c = false)
      (hne : word ≠ []) (hword : ∀ c ∈ word, isWordStart c = true) (h : ¬IsReserved word) :
      EndsOperand (before ++ word)
  | space {before : List Char} {c : Char} (h : EndsOperand before) (hc : isSpace c = true) :
      EndsOperand (before ++ [c])

/-- The text is cut before `s`, through no word. -/
def CutAt (source s : List Char) : Prop := ∃ before, source = before ++ s ∧ Parted before s

/-- The text is cut before `s`, through no word and where an operand may come. -/
def OperandAt (source s : List Char) : Prop :=
  ∃ before, source = before ++ s ∧ Parted before s ∧ Due before

/-- A cut leaves an end of the text. -/
theorem CutAt.suffix {source s : List Char} (h : CutAt source s) : s <:+ source := by
  obtain ⟨before, heq, -⟩ := h
  exact ⟨before, heq.symm⟩

/-- An operand comes after a cut. -/
theorem OperandAt.cutAt {source s : List Char} (h : OperandAt source s) : CutAt source s := by
  obtain ⟨before, heq, hparted, -⟩ := h
  exact ⟨before, heq, hparted⟩

/-- An operand may come at the start of a text. -/
theorem OperandAt.start (source : List Char) : OperandAt source source :=
  ⟨[], rfl, by simp [Parted], .start⟩

/-- A sign is no point, begins no words, and ends no operand. -/
theorem sign_ne : ∀ c ∈ signs, c ≠ '.' ∧ isWordStart c = false ∧ Text.isAsciiDigit c = false ∧
    c ∉ [')', ']', '\'', '"'] := by
  intro c hc
  simp only [signs, List.mem_cons, List.not_mem_nil, or_false] at hc
  rcases hc with rfl | rfl | rfl | rfl | rfl | rfl | rfl | rfl | rfl | rfl | rfl | rfl | rfl | rfl <;>
    decide

/-- The words that stand between operands have letters only. -/
theorem IsReserved.letters {word : List Char} (h : IsReserved word) :
    word ≠ [] ∧ ∀ c ∈ word, isWordStart c = true := by
  obtain ⟨keyword, hkeyword, hword⟩ := h
  have hletters : ∀ keyword ∈ operatorWords,
      keyword.toList ≠ [] ∧ keyword.toList.all Text.isAsciiLetter = true := by decide
  obtain ⟨hne, hall⟩ := hletters keyword hkeyword
  rw [isKeyword, beq_iff_eq] at hword
  rw [← hword] at hne hall
  rw [List.all_map, List.all_eq_true] at hall
  exact ⟨fun hnil => hne (by rw [hnil]; rfl), fun c hc => isWordStart_of_toUpper (hall c hc)⟩

/-- What may come before the last character of a text that an operand may come after. -/
theorem due_concat {before : List Char} {c : Char} (h : Due (before ++ [c])) :
    c ∈ signs ∨ (isSpace c = true ∧ Due before) ∨
      ∃ front word, before ++ [c] = front ++ word ∧ Parted front word ∧ IsReserved word := by
  generalize htext : before ++ [c] = text at h
  cases h with
  | start => exact absurd htext (by simp)
  | sign front hc =>
      obtain ⟨-, hlast⟩ := List.append_inj' htext rfl
      obtain rfl := List.singleton_inj.1 hlast
      exact .inl hc
  | word hparted hword => exact .inr (.inr ⟨_, _, rfl, hparted, hword⟩)
  | space hdue hc =>
      obtain ⟨rfl, hlast⟩ := List.append_inj' htext rfl
      obtain rfl := List.singleton_inj.1 hlast
      exact .inr (.inl ⟨hc, hdue⟩)

/-- The last character of a word that stands between operands begins words. -/
theorem isWordStart_last {before front word : List Char} {c : Char} (hword : IsReserved word)
    (h : before ++ [c] = front ++ word) : isWordStart c = true := by
  obtain ⟨hne, hletters⟩ := hword.letters
  refine hletters c (List.mem_of_getLast? ?_)
  rw [← List.getLast?_append_of_ne_nil front hne, ← h, List.getLast?_concat]

/-- No word that stands between operands ends a text that ends in another word. -/
theorem not_reserved_end {before front word other : List Char}
    (hbefore : ∀ c ∈ before.getLast?, isWordStart c = false)
    (hne : other ≠ []) (hother : ∀ c ∈ other, isWordStart c = true) (hreserved : ¬IsReserved other)
    (hparted : Parted front word) (hword : IsReserved word) :
    before ++ other ≠ front ++ word := by
  intro heq
  obtain ⟨hwordne, hletters⟩ := hword.letters
  rcases List.append_eq_append_iff.1 heq with ⟨mid, rfl, rfl⟩ | ⟨mid, rfl, rfl⟩
  · -- the word that ends the text is a part of the other one, so it is all of it
    cases hmid : mid.getLast? with
    | none =>
        obtain rfl := List.getLast?_eq_none_iff.1 hmid
        exact hreserved hword
    | some c =>
        have hc : isWordStart c = true :=
          hother c (List.mem_append_left _ (List.mem_of_getLast? hmid))
        have hlast : c ∈ (before ++ mid).getLast? := by
          rw [List.getLast?_append, hmid]
          rfl
        obtain ⟨d, ds, rfl⟩ := List.exists_cons_of_ne_nil hwordne
        have hd := (hparted c hlast).2 hc d rfl
        rw [isWordChar_of_start (hletters d List.mem_cons_self)] at hd
        cases hd
  · cases hmid : mid.getLast? with
    | none =>
        obtain rfl := List.getLast?_eq_none_iff.1 hmid
        exact hreserved hword
    | some c =>
        have hc : isWordStart c = true :=
          hletters c (List.mem_append_left _ (List.mem_of_getLast? hmid))
        have hlast : c ∈ (front ++ mid).getLast? := by
          rw [List.getLast?_append, hmid]
          rfl
        rw [hbefore c hlast] at hc
        cases hc

/-- No operand may come after an operand. -/
theorem EndsOperand.not_due {text : List Char} (h : EndsOperand text) : ¬Due text := by
  induction h with
  | @char before c hc =>
      intro hdue
      have hsign : c ∉ signs := by
        intro hmem
        obtain ⟨-, -, hdigit, hclosing⟩ := sign_ne c hmem
        rcases hc with hc | hc
        · exact hclosing hc
        · cases hdigit.symm.trans hc
      have hletter : isWordStart c = false ∧ isSpace c = false := by
        rcases hc with hc | hc
        · simp only [List.mem_cons, List.not_mem_nil, or_false] at hc
          rcases hc with rfl | rfl | rfl | rfl <;> decide
        · exact ⟨Text.isWordStart_of_digit hc, isSpace_of_isWordChar (Text.isWordChar_of_digit hc)⟩
      rcases due_concat hdue with hmem | ⟨hspace, -⟩ | ⟨front, word, heq, -, hword⟩
      · exact hsign hmem
      · cases hletter.2.symm.trans hspace
      · cases hletter.1.symm.trans (isWordStart_last hword heq)
  | @word before other hbefore hne hother hreserved =>
      intro hdue
      obtain ⟨init, c, rfl⟩ : ∃ init c, other = init ++ [c] :=
        ⟨_, _, (List.dropLast_concat_getLast hne).symm⟩
      have hc : isWordStart c = true := hother c (by simp)
      rw [← List.append_assoc] at hdue
      rcases due_concat hdue with hmem | ⟨hspace, -⟩ | ⟨front, word, heq, hparted, hword⟩
      · cases (sign_ne c hmem).2.1.symm.trans hc
      · rw [isSpace_of_isWordChar (isWordChar_of_start hc)] at hspace
        cases hspace
      · rw [List.append_assoc] at heq
        exact not_reserved_end hbefore hne hother hreserved hparted hword heq
  | @space before c _ hc ih =>
      intro hdue
      rcases due_concat hdue with hmem | ⟨-, hbefore⟩ | ⟨front, word, heq, -, hword⟩
      · rcases eq_of_isSpace hc with rfl | rfl | rfl | rfl <;> exact absurd hmem (by decide)
      · exact ih hbefore
      · have hstart := isWordStart_last hword heq
        rw [isSpace_of_isWordChar (isWordChar_of_start hstart)] at hc
        cases hc

section Parted

/-- Characters that are no points and begin no words are parted from everything. -/
theorem parted_of_no_start {run : List Char} (hne : run ≠ [])
    (hrun : ∀ c ∈ run, c ≠ '.' ∧ isWordStart c = false) (before after : List Char) :
    Parted (before ++ run) after := by
  intro c hc
  rw [List.getLast?_append_of_ne_nil before hne] at hc
  obtain ⟨hpoint, hstart⟩ := hrun c (List.mem_of_getLast? hc)
  refine ⟨hpoint, fun h => ?_⟩
  rw [hstart] at h
  cases h

/-- One such character is parted from everything. -/
theorem parted_of_not_start {c : Char} (hpoint : c ≠ '.') (hstart : isWordStart c = false)
    (before after : List Char) : Parted (before ++ [c]) after :=
  parted_of_no_start (List.cons_ne_nil c []) (by simpa using ⟨hpoint, hstart⟩) before after

/-- A space parts. -/
theorem parted_space {c : Char} (hc : isSpace c = true) (before after : List Char) :
    Parted (before ++ [c]) after := by
  rcases eq_of_isSpace hc with rfl | rfl | rfl | rfl <;>
    exact parted_of_not_start (by decide) (by decide) before after

/-- A sign parts. -/
theorem parted_sign {c : Char} (hc : c ∈ signs) (before after : List Char) :
    Parted (before ++ [c]) after := by
  obtain ⟨hpoint, hstart, -⟩ := sign_ne c hc
  exact parted_of_not_start hpoint hstart before after

/-- A run of characters that go on words is parted from what does not go on with it. -/
theorem parted_run {run after : List Char} (hrun : run.all isWordChar = true) (hne : run ≠ [])
    (hafter : ∀ d ∈ after.head?, isWordChar d = false) (before : List Char) :
    Parted (before ++ run) after := by
  intro c hc
  rw [List.getLast?_append_of_ne_nil before hne] at hc
  have hmem : c ∈ run := List.mem_of_getLast? hc
  have hword : isWordChar c = true := List.all_eq_true.1 hrun c hmem
  refine ⟨?_, fun _ => hafter⟩
  rintro rfl
  exact absurd hword (by decide)

end Parted

variable {source s rest after : List Char}

/-- A reader of one character goes to a cut. -/
theorem cutAt_cons {c : Char} (hpoint : c ≠ '.') (hstart : isWordStart c = false)
    (h : c :: s <:+ source) : CutAt source s := by
  obtain ⟨before, rfl⟩ := h
  exact ⟨before ++ [c], List.append_cons before c s, parted_of_not_start hpoint hstart before s⟩

/-- An operand may come after a sign. -/
theorem operandAt_sign {c : Char} (hc : c ∈ signs) (h : c :: s <:+ source) : OperandAt source s := by
  obtain ⟨before, rfl⟩ := h
  exact ⟨before ++ [c], List.append_cons before c s, parted_sign hc before s, .sign before hc⟩

/-- What stands after spaces is an end of the text. -/
theorem suffix_of_skip {t : List Char} (h : skip s = t) (hs : s <:+ source) : t <:+ source := by
  rw [← h]
  exact (List.dropWhile_suffix isSpace).trans hs

/-- Spaces may be passed over at a cut, with what spaces leave true of the text before it. -/
theorem exists_skip {P : List Char → Prop}
    (hspace : ∀ before c, isSpace c = true → P before → P (before ++ [c]))
    (h : ∃ before, source = before ++ s ∧ Parted before s ∧ P before) :
    ∃ before, source = before ++ skip s ∧ Parted before (skip s) ∧ P before := by
  induction s with
  | nil => exact h
  | cons c s ih =>
      cases hc : isSpace c with
      | false =>
          rw [skip_cons hc]
          exact h
      | true =>
          obtain ⟨before, rfl, -, hbefore⟩ := h
          have hskip : skip (c :: s) = skip s := by simp [skip, hc]
          rw [hskip]
          exact ih ⟨before ++ [c], List.append_cons before c s, parted_space hc before s,
            hspace before c hc hbefore⟩

/-- Spaces may be passed over at a cut. -/
theorem CutAt.skip (h : CutAt source s) : CutAt source (skip s) := by
  obtain ⟨before, heq, hparted⟩ := h
  obtain ⟨before', heq', hparted', -⟩ := exists_skip (P := fun _ => True) (fun _ _ _ _ => trivial)
    ⟨before, heq, hparted, trivial⟩
  exact ⟨before', heq', hparted'⟩

/-- Spaces may be passed over before an operand. -/
theorem OperandAt.skip (h : OperandAt source s) : OperandAt source (skip s) :=
  exists_skip (fun _ _ hc hdue => hdue.space hc) h

/-- A word, as it is read. -/
theorem word?_eq {word : List Char} (h : word? s = some (word, rest)) :
    s = word ++ rest ∧ word? word = some (word, []) ∧ ∀ c ∈ rest.head?, isWordChar c = false := by
  cases s with
  | nil => cases h
  | cons c s =>
      rw [word?] at h
      split at h
      · next hc =>
          cases h
          have hall : (s.takeWhile isWordChar).all isWordChar = true := List.all_takeWhile
          refine ⟨by rw [List.cons_append, List.takeWhile_append_dropWhile], ?_, ?_⟩
          · exact word?_of_all hc hall
          · intro d hd
            have hne := List.head?_dropWhile_not isWordChar s
            rw [Option.mem_def.1 hd] at hne
            simpa using hne
      · cases h

/-- A word is parted from what is left when it is read. -/
theorem parted_word {word : List Char} (h : word? s = some (word, rest)) (before : List Char) :
    Parted (before ++ word) rest := by
  obtain ⟨-, hself, hrest⟩ := word?_eq h
  obtain ⟨c, cs, rfl, hc, hcs⟩ := word?_self hself
  have hrun : (c :: cs).all isWordChar = true := by
    rw [List.all_cons, isWordChar_of_start hc, hcs, Bool.and_self]
  exact parted_run hrun (List.cons_ne_nil c cs) hrest before

/-- After a word there is a cut. -/
theorem cutAt_word {word : List Char} (h : word? s = some (word, rest)) (hs : s <:+ source) :
    CutAt source rest := by
  have hparted := parted_word h
  obtain ⟨before, rfl⟩ := hs
  obtain ⟨rfl, -, -⟩ := word?_eq h
  exact ⟨before ++ word, (List.append_assoc _ _ _).symm, hparted before⟩

/-- An operand may come after one of the words that stand between operands. -/
theorem operandAt_keyword {keyword : String} (hkeyword : keyword ∈ operatorWords)
    (h : keyword? keyword s = some rest) (hs : CutAt source s) : OperandAt source rest := by
  rw [keyword?] at h
  split at h
  · next word left hword =>
      split at h
      · next hreserved =>
          cases h
          have hafter := parted_word hword
          obtain ⟨before, rfl, hparted⟩ := hs
          obtain ⟨rfl, hself, -⟩ := word?_eq hword
          obtain ⟨c, cs, rfl, -⟩ := word?_self hself
          exact ⟨before ++ c :: cs, (List.append_assoc _ _ _).symm, hafter before,
            .word hparted ⟨keyword, hkeyword, hreserved⟩⟩
      · cases h
  · cases h

/-- An operand may come after one of these words or the two signs that stand for it. -/
theorem operandAt_keywordOr {keyword sign : String} (hkeyword : keyword ∈ operatorWords)
    (init : List Char) {c : Char} (hsign : sign.toList = init ++ [c]) (hc : c ∈ signs)
    (h : keywordOr? keyword sign s = some rest) (hs : CutAt source s) : OperandAt source rest := by
  rw [keywordOr?, Option.or_eq_some_iff] at h
  rcases h with h | ⟨-, h⟩
  · exact operandAt_keyword hkeyword h hs
  · rw [Text.after?_eq_some_iff, hsign, List.append_assoc] at h
    refine operandAt_sign hc (List.IsSuffix.trans ?_ hs.suffix)
    exact ⟨init, h.symm⟩

/-- An operand may come after a comparison. -/
theorem operandAt_comparison {op : Operator} (h : operator? .comparison s = some (op, after))
    (hs : CutAt source s) : OperandAt source after := by
  have hsuffix := hs.suffix
  simp only [operator?] at h
  split at h
  · cases h
    exact operandAt_sign (by decide) ((List.suffix_cons _ _).trans hsuffix)
  · cases h
    exact operandAt_sign (by decide) ((List.suffix_cons _ _).trans hsuffix)
  · cases h
    exact operandAt_sign (by decide) ((List.suffix_cons _ _).trans hsuffix)
  · cases h
    exact operandAt_sign (by decide) ((List.suffix_cons _ _).trans hsuffix)
  · cases h
    exact operandAt_sign (by decide) hsuffix
  · cases h
    exact operandAt_sign (by decide) hsuffix
  · split at h
    · next left hnot =>
        -- the two words of one operator
        split at h
        · obtain ⟨rest, hin, heq⟩ := Option.map_eq_some_iff.1 h
          cases heq
          have hleft := (operandAt_keyword (by decide) hnot hs).cutAt
          exact operandAt_keyword (by decide) hin hleft.skip
        · cases h
    · obtain ⟨rest, hin, heq⟩ := Option.map_eq_some_iff.1 h
      cases heq
      exact operandAt_keyword (by decide) hin hs

/-- An operand may come after an operator. -/
theorem operandAt_operator {level : Level} {op : Operator}
    (h : operator? level s = some (op, after)) (hs : CutAt source s) : OperandAt source after := by
  cases level with
  | disjunction =>
      obtain ⟨rest, hor, heq⟩ := Option.map_eq_some_iff.1 h
      cases heq
      exact operandAt_keywordOr (by decide) ['|'] rfl (by decide) hor hs
  | conjunction =>
      obtain ⟨rest, hand, heq⟩ := Option.map_eq_some_iff.1 h
      cases heq
      exact operandAt_keywordOr (by decide) ['&'] rfl (by decide) hand hs
  | comparison => exact operandAt_comparison h hs
  | sum | product =>
      simp only [operator?] at h
      split at h
      all_goals cases h
      all_goals exact operandAt_sign (by decide) hs.suffix
  | negation | minus | primary => cases h

/-- An operand may come after the sign of a negation. -/
theorem operandAt_negation (h : negation? s = some after) (hs : CutAt source s) :
    OperandAt source after := by
  obtain ⟨rest, hsign, rfl⟩ := Option.map_eq_some_iff.1 h
  exact (operandAt_keywordOr (by decide) [] rfl (by decide) hsign hs).skip

/-- An operand may come after a minus sign. -/
theorem operandAt_minus (h : minus? s = some after) (hs : s <:+ source) :
    OperandAt source after := by
  unfold minus? at h
  split at h
  · cases h
    exact (operandAt_sign (by decide) hs).skip
  · cases h

/-- An item may come after a comma. -/
theorem operandAt_comma (h : comma? s = some after) (hs : s <:+ source) :
    OperandAt source after := by
  unfold comma? at h
  split at h
  · next rest hskip =>
      cases h
      exact (operandAt_sign (by decide) (suffix_of_skip hskip hs)).skip
  · cases h

/-- An item may come after an opening character. -/
theorem operandAt_opening {c : Char} (hc : c ∈ signs) (h : opening? c s = some after)
    (hs : s <:+ source) : OperandAt source after := by
  unfold opening? at h
  split at h
  · next d rest hskip =>
      split at h
      · next heq =>
          subst heq
          cases h
          exact (operandAt_sign hc (suffix_of_skip hskip hs)).skip
      · cases h
  · cases h

/-- After a closing character there is a cut. -/
theorem cutAt_closing {c : Char} (hpoint : c ≠ '.') (hstart : isWordStart c = false)
    (h : closing? c s = some rest) (hs : s <:+ source) : CutAt source rest := by
  unfold closing? at h
  split at h
  · next d left hskip =>
      split at h
      · next heq =>
          subst heq
          cases h
          exact cutAt_cons hpoint hstart (suffix_of_skip hskip hs)
      · cases h
  · cases h

/-- After a quoted text there is a cut. -/
theorem cutAt_quoted {t : String} (h : quoted? s = some (t, rest)) (hs : s <:+ source) :
    CutAt source rest := by
  unfold quoted? at h
  split at h
  · next mark left =>
      split at h
      · next hmark =>
          obtain ⟨⟨cs, _⟩, hread, heq⟩ := Option.map_eq_some_iff.1 h
          cases heq
          obtain ⟨used, rfl, -⟩ := quotedRest?_used hread
          have hrest : mark :: rest <:+ source :=
            ((List.suffix_append used _).trans (List.suffix_cons mark _)).trans hs
          rcases hmark with rfl | rfl <;> exact cutAt_cons (by decide) (by decide) hrest
      · cases h
  · cases h

/-- After the name of a step there is a cut. -/
theorem cutAt_stepName {name : String} (h : stepName? s = some (name, rest)) (hs : s <:+ source) :
    CutAt source rest := by
  unfold stepName? at h
  split at h
  · cases h
  · next hne =>
      cases h
      obtain ⟨before, rfl⟩ := hs
      refine ⟨before ++ s.takeWhile isWordChar, ?_, parted_run List.all_takeWhile hne ?_ before⟩
      · rw [List.append_assoc, List.takeWhile_append_dropWhile]
      · intro d hd
        have hhead := List.head?_dropWhile_not isWordChar s
        rw [Option.mem_def.1 hd] at hhead
        simpa using hhead

/-- After a run of digits there is a cut. -/
theorem cutAt_digits (hne : s.takeWhile Text.isAsciiDigit ≠ []) (hs : s <:+ source) :
    CutAt source (s.dropWhile Text.isAsciiDigit) := by
  obtain ⟨before, rfl⟩ := hs
  refine ⟨before ++ s.takeWhile Text.isAsciiDigit, ?_,
    parted_of_no_start hne (fun c hc => ?_) before _⟩
  · rw [List.append_assoc, List.takeWhile_append_dropWhile]
  · have hdigit : Text.isAsciiDigit c = true := List.all_eq_true.1 List.all_takeWhile c hc
    refine ⟨?_, Text.isWordStart_of_digit hdigit⟩
    rintro rfl
    exact absurd hdigit (by decide)

/-- After the digits of a fraction, or where there are none, there is a cut. -/
theorem cutAt_fraction (hs : CutAt source s) : CutAt source (fraction s).2 := by
  unfold fraction
  split
  · next left =>
      split
      · exact hs
      · next hne =>
          exact cutAt_digits hne ((List.suffix_cons '.' left).trans hs.suffix)
  · exact hs

/-- After an exponent there is a cut. -/
theorem cutAt_exponent {n : Int} (h : exponent? s = some (n, rest)) (hs : s <:+ source) :
    CutAt source rest := by
  unfold exponent? at h
  split at h
  · next c left =>
      split at h
      · -- the digits may come after a sign
        split at h
        next minus digits hsigned =>
          split at h
          · cases h
          · next hne =>
              cases h
              refine cutAt_digits hne (List.IsSuffix.trans ?_ hs)
              split at hsigned
              all_goals cases hsigned
              · exact (List.suffix_cons _ _).trans (List.suffix_cons _ _)
              · exact (List.suffix_cons _ _).trans (List.suffix_cons _ _)
              · exact List.suffix_cons _ _
      · cases h
  · cases h

/-- A number starts with digits and ends after its fraction or its exponent. -/
theorem number?_rest {n : Number} (h : number? s = some (n, rest)) :
    s.takeWhile Text.isAsciiDigit ≠ [] ∧
      (rest = (fraction (s.dropWhile Text.isAsciiDigit)).2 ∨
        ∃ e, exponent? (fraction (s.dropWhile Text.isAsciiDigit)).2 = some (e, rest)) := by
  unfold number? at h
  split at h
  · cases h
  · next hne =>
      refine ⟨hne, ?_⟩
      simp only at h
      split at h
      · next e after hexponent =>
          split at h
          · cases h
            exact .inr ⟨e, hexponent⟩
          · cases h
      · split at h
        · cases h
          exact .inl rfl
        · split at h
          · cases h
            exact .inl rfl
          · cases h

/-- After a number there is a cut. -/
theorem cutAt_number {n : Number} (h : number? s = some (n, rest)) (hs : s <:+ source) :
    CutAt source rest := by
  obtain ⟨hwhole, hrest⟩ := number?_rest h
  have hfraction : CutAt source (fraction (s.dropWhile Text.isAsciiDigit)).2 :=
    cutAt_fraction (cutAt_digits hwhole hs)
  rcases hrest with rfl | ⟨e, hexponent⟩
  · exact hfraction
  · exact cutAt_exponent hexponent hfraction.suffix

end SeriesQuery.Expr
