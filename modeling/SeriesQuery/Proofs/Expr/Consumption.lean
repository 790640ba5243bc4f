import SeriesQuery.Proofs.Expr.Places

/-!
# What tokens use up

Every token that is read uses up a part of the text that is not empty, from its start:
`Consumes s rest` says that `rest` is what is left of `s` then. There is one lemma for each token
reader. The end of a text in quotation marks can also be found by counting bytes, and
`quoted?_closingByte?` says that this gives a character boundary, the one where the reader stops.
-/

namespace SeriesQuery

/-- What is left of `s` is `rest`, after one character or more. -/
def Consumes (s rest : List Char) : Prop := ∃ used, used ≠ [] ∧ s = used ++ rest

namespace Consumes

variable {s mid rest : List Char}

/-- What is left is an end of the text. -/
theorem suffix (h : Consumes s rest) : rest <:+ s := by
  obtain ⟨used, -, rfl⟩ := h
  exact List.suffix_append used rest

/-- What is left is shorter. -/
theorem length_lt (h : Consumes s rest) : rest.length < s.length := by
  obtain ⟨used, hne, rfl⟩ := h
  have := List.length_pos_of_ne_nil hne
  rw [List.length_append]
  omega

/-- More may be used up afterwards. -/
theorem trans_suffix (h : Consumes s mid) (hrest : rest <:+ mid) : Consumes s rest := by
  obtain ⟨used, hne, rfl⟩ := h
  obtain ⟨more, rfl⟩ := hrest
  exact ⟨used ++ more, List.append_ne_nil_of_left_ne_nil hne more, (List.append_assoc _ _ _).symm⟩

/-- Something may be used up before. -/
theorem of_suffix (hmid : mid <:+ s) (h : Consumes mid rest) : Consumes s rest := by
  obtain ⟨before, rfl⟩ := hmid
  obtain ⟨used, hne, rfl⟩ := h
  exact ⟨before ++ used, List.append_ne_nil_of_right_ne_nil before hne,
    (List.append_assoc _ _ _).symm⟩

/-- One character is used up. -/
theorem cons (c : Char) (s : List Char) : Consumes (c :: s) s :=
  ⟨[c], List.cons_ne_nil c [], rfl⟩

/-- A run of characters of one kind is used up, where there is one. -/
theorem dropWhile {p : Char → Bool} (h : s.takeWhile p ≠ []) : Consumes s (s.dropWhile p) :=
  ⟨s.takeWhile p, h, List.takeWhile_append_dropWhile.symm⟩

end Consumes

namespace Token

variable {s rest after : List Char}

/-- Spaces that are passed over leave an end of the text. -/
theorem skip_suffix (s : List Char) : skip s <:+ s := List.dropWhile_suffix isSpace

/-- The spaces in front of a sign are used up with it. -/
theorem consumes_skip {c : Char} (h : skip s = c :: rest) : Consumes s rest := by
  have hsuffix := skip_suffix s
  rw [h] at hsuffix
  exact .of_suffix hsuffix (.cons c rest)

/-- A word is used up. -/
theorem consumes_word {word : List Char} (h : word? s = some (word, rest)) : Consumes s rest := by
  obtain ⟨rfl, hself, -⟩ := Expr.word?_eq h
  obtain ⟨c, cs, rfl, -⟩ := word?_self hself
  exact ⟨c :: cs, List.cons_ne_nil c cs, rfl⟩

/-- A keyword is used up. -/
theorem consumes_keyword {keyword : String} (h : keyword? keyword s = some rest) :
    Consumes s rest := by
  unfold keyword? at h
  split at h
  · next word left hword =>
      split at h
      · cases h
        exact consumes_word hword
      · cases h
  · cases h

/-- A keyword or the sign for it is used up. -/
theorem consumes_keywordOr {keyword sign : String} (hsign : sign.toList ≠ [])
    (h : keywordOr? keyword sign s = some rest) : Consumes s rest := by
  rw [keywordOr?, Option.or_eq_some_iff] at h
  rcases h with h | ⟨-, h⟩
  · exact consumes_keyword h
  · exact ⟨sign.toList, hsign, Text.after?_eq_some_iff.1 h⟩

/-- A comparison is used up. -/
theorem consumes_comparison {op : Operator} (h : operator? .comparison s = some (op, after)) :
    Consumes s after := by
  simp only [operator?] at h
  split at h
  case h_7 =>
    split at h
    · next left hnot =>
        -- the two words of one operator
        split at h
        · obtain ⟨rest, hin, heq⟩ := Option.map_eq_some_iff.1 h
          cases heq
          have hleft := (skip_suffix left).trans (consumes_keyword hnot).suffix
          exact .of_suffix hleft (consumes_keyword hin)
        · cases h
    · obtain ⟨rest, hin, heq⟩ := Option.map_eq_some_iff.1 h
      cases heq
      exact consumes_keyword hin
  -- signs of two characters, and of one
  case h_1 | h_2 | h_3 | h_4 =>
    cases h
    exact (Consumes.cons _ _).trans_suffix (List.suffix_cons _ _)
  case h_5 | h_6 =>
    cases h
    exact .cons _ _

/-- An operator is used up. -/
theorem consumes_operator {level : Level} {op : Operator}
    (h : operator? level s = some (op, after)) : Consumes s after := by
  cases level with
  | disjunction =>
      obtain ⟨rest, hor, heq⟩ := Option.map_eq_some_iff.1 h
      cases heq
      exact consumes_keywordOr (by decide) hor
  | conjunction =>
      obtain ⟨rest, hand, heq⟩ := Option.map_eq_some_iff.1 h
      cases heq
      exact consumes_keywordOr (by decide) hand
  | comparison => exact consumes_comparison h
  | sum | product =>
      simp only [operator?] at h
      split at h
      all_goals cases h
      all_goals exact .cons _ _
  | negation | minus | primary => cases h

/-- The sign of a negation is used up. -/
theorem consumes_negation (h : negation? s = some after) : Consumes s after := by
  obtain ⟨rest, hsign, rfl⟩ := Option.map_eq_some_iff.1 h
  exact (consumes_keywordOr (by decide) hsign).trans_suffix (skip_suffix rest)

/-- A minus sign is used up. -/
theorem consumes_minus (h : minus? s = some after) : Consumes s after := by
  unfold minus? at h
  split at h
  · next rest =>
      cases h
      exact (Consumes.cons '-' rest).trans_suffix (skip_suffix rest)
  · cases h

/-- A comma is used up. -/
theorem consumes_comma (h : comma? s = some after) : Consumes s after := by
  unfold comma? at h
  split at h
  · next rest hskip =>
      cases h
      exact (consumes_skip hskip).trans_suffix (skip_suffix rest)
  · cases h

/-- An opening character is used up. -/
theorem consumes_opening {c : Char} (h : opening? c s = some after) : Consumes s after := by
  unfold opening? at h
  split at h
  · next d rest hskip =>
      split at h
      · cases h
        exact (consumes_skip hskip).trans_suffix (skip_suffix rest)
      · cases h
  · cases h

/-- A closing character is used up. -/
theorem consumes_closing {c : Char} (h : closing? c s = some rest) : Consumes s rest := by
  unfold closing? at h
  split at h
  · next d left hskip =>
      split at h
      · cases h
        exact consumes_skip hskip
      · cases h
  · cases h

/-- The name of a step is used up. -/
theorem consumes_stepName {name : String} (h : stepName? s = some (name, rest)) :
    Consumes s rest := by
  unfold stepName? at h
  split at h
  · cases h
  · next hne =>
      cases h
      exact .dropWhile hne

/-- A number is used up. -/
theorem consumes_number {n : Number} (h : number? s = some (n, rest)) : Consumes s rest := by
  obtain ⟨hwhole, hrest⟩ := Expr.number?_rest h
  have hfraction : (fraction (s.dropWhile Text.isAsciiDigit)).2 <:+ s.dropWhile Text.isAsciiDigit :=
    (Expr.cutAt_fraction (Expr.OperandAt.start _).cutAt).suffix
  refine (Consumes.dropWhile hwhole).trans_suffix (List.IsSuffix.trans ?_ hfraction)
  rcases hrest with rfl | ⟨e, hexponent⟩
  · exact List.suffix_rfl
  · exact (Expr.cutAt_exponent hexponent List.suffix_rfl).suffix

/-- A text in quotation marks is used up, with its marks. -/
theorem consumes_quoted {t : String} (h : quoted? s = some (t, rest)) : Consumes s rest := by
  unfold quoted? at h
  split at h
  · next mark left =>
      split at h
      · obtain ⟨⟨cs, after⟩, hread, heq⟩ := Option.map_eq_some_iff.1 h
        cases heq
        obtain ⟨used, rfl, -⟩ := quotedRest?_used hread
        exact ⟨mark :: (used ++ [mark]), List.cons_ne_nil _ _, by simp⟩
      · cases h
  · cases h

/-- The byte at which the mark that closes a quotation stands, counted from after the mark that
opens it. A backslash, which is one byte, hides the character after it. -/
def closingByte? (mark : Char) : List Char → Option Nat
  | [] => none
  | '\\' :: [] => none
  | '\\' :: c :: rest => (closingByte? mark rest).map (1 + c.utf8Size + ·)
  | c :: rest => if c = mark then some 0 else (closingByte? mark rest).map (c.utf8Size + ·)

/-- A character boundary stands after `n` bytes of a text, and `rest` behind it. -/
def CutAtByte (s : List Char) (n : Nat) (rest : List Char) : Prop :=
  ∃ used, s = used ++ rest ∧ Text.byteCount used = n

/-- A boundary counted from one character earlier. -/
theorem CutAtByte.cons {n : Nat} (h : CutAtByte s n rest) (c : Char) :
    CutAtByte (c :: s) (c.utf8Size + n) rest := by
  obtain ⟨used, rfl, rfl⟩ := h
  exact ⟨c :: used, rfl, rfl⟩

/-- A boundary counted one character further. -/
theorem CutAtByte.next {n : Nat} {c : Char} (h : CutAtByte s n (c :: rest)) :
    CutAtByte s (n + c.utf8Size) rest := by
  obtain ⟨used, rfl, rfl⟩ := h
  exact ⟨used ++ [c], List.append_cons used c rest, by simp⟩

/-- What a backslash does not escape is counted as it stands, up to the closing mark. -/
theorem closingByte?_plain {mark c : Char} (hc : c ≠ '\\') (s : List Char) :
    closingByte? mark (c :: s) =
      if c = mark then some 0 else (closingByte? mark s).map (c.utf8Size + ·) := by
  rw [closingByte?]
  · intro h
    exact absurd h hc
  · intro d rest h
    exact absurd h hc

/-- A text without a closing mark has no byte where one stands, and another is read up to the
boundary before the mark. -/
theorem quotedRest?_closingByte? (mark : Char) (s : List Char) :
    (closingByte? mark s = none ∧ quotedRest? mark s = none) ∨
      ∃ n cs rest, closingByte? mark s = some n ∧ quotedRest? mark s = some (cs, rest) ∧
        CutAtByte s n (mark :: rest) := by
  induction s using quotedRest?.induct mark with
  | case1 => exact .inl ⟨rfl, rfl⟩
  | case2 => exact .inl ⟨rfl, rfl⟩
  | case3 c s ih =>
      rw [closingByte?, quotedRest?]
      rcases ih with ⟨hbyte, hread⟩ | ⟨n, cs, rest, hbyte, hread, hcut⟩
      · rw [hbyte, hread]
        exact .inl ⟨rfl, rfl⟩
      · rw [hbyte, hread]
        refine .inr ⟨_, _, rest, rfl, rfl, ?_⟩
        show CutAtByte _ (1 + c.utf8Size + n) _
        rw [Nat.add_assoc]
        exact (hcut.cons c).cons '\\'
  | case4 s hend hescape =>
      have hplain := ne_backslash hend hescape
      rw [closingByte?_plain hplain, quotedRest?_plain hplain, if_pos rfl, if_pos rfl]
      exact .inr ⟨0, [], s, rfl, rfl, [], rfl, rfl⟩
  | case5 c s hend hescape hmark ih =>
      have hplain := ne_backslash hend hescape
      rw [closingByte?_plain hplain, quotedRest?_plain hplain, if_neg hmark, if_neg hmark]
      rcases ih with ⟨hbyte, hread⟩ | ⟨n, cs, rest, hbyte, hread, hcut⟩
      · rw [hbyte, hread]
        exact .inl ⟨rfl, rfl⟩
      · rw [hbyte, hread]
        exact .inr ⟨_, _, rest, rfl, rfl, hcut.cons c⟩

/-- A quotation is read exactly if its closing mark stands at some byte, and what is left starts two
bytes further, for the two marks, at a character boundary. -/
theorem quoted?_closingByte? {mark : Char} (hmark : mark = '\'' ∨ mark = '"') (s : List Char) :
    (closingByte? mark s = none ∧ quoted? (mark :: s) = none) ∨
      ∃ n t rest, closingByte? mark s = some n ∧ quoted? (mark :: s) = some (t, rest) ∧
        CutAtByte (mark :: s) (n + 2) rest := by
  have hsize : mark.utf8Size = 1 := by
    rcases hmark with rfl | rfl <;> rfl
  rw [quoted?, if_pos hmark]
  rcases quotedRest?_closingByte? mark s with ⟨hbyte, hread⟩ | ⟨n, cs, rest, hbyte, hread, hcut⟩
  · rw [hread]
    exact .inl ⟨hbyte, rfl⟩
  · rw [hread]
    refine .inr ⟨n, _, rest, hbyte, rfl, ?_⟩
    have hboth := (hcut.cons mark).next
    rw [hsize] at hboth
    rwa [show n + 2 = 1 + n + 1 by omega]

end Token

end SeriesQuery
