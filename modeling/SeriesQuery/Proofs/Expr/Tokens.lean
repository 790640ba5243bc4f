import SeriesQuery.Proofs.Expr.Printer
import SeriesQuery.Proofs.Text.Digits
import SeriesQuery.Proofs.Text.Runs

/-!
# Reading tokens back

What each token reader finds at the start of a text that was written for it. `Stops level rest`
says that nothing in `rest` goes on with an expression of a level: no operator of this level or a
tighter one, no part of a word or a number, no step and no argument. `Stops.operator` is the case
that makes chains and comparisons work: a looser operator ends a tighter operand.
-/

namespace SeriesQuery

namespace Text

/-- An ASCII digit may go on a word. -/
theorem isWordChar_of_digit {c : Char} (h : isAsciiDigit c = true) : Token.isWordChar c = true := by
  have hc : c.toNat < 128 := by
    have := toNat_of_digit h
    omega
  simp [Token.isWordChar, isAlphanumeric, isNumeral, hc, h]

/-- An ASCII digit begins no word. -/
theorem isWordStart_of_digit {c : Char} (h : isAsciiDigit c = true) :
    Token.isWordStart c = false := by
  obtain ⟨hlow, hhigh⟩ := toNat_of_digit h
  have hascii : c.toNat < 128 := by omega
  have hupper : ¬ 'A' ≤ c := by
    rw [Char.le_def, UInt32.le_iff_toNat_le]
    exact fun hle => absurd (Nat.le_trans hle hhigh) (by decide)
  have hlower : ¬ 'a' ≤ c := by
    rw [Char.le_def, UInt32.le_iff_toNat_le]
    exact fun hle => absurd (Nat.le_trans hle hhigh) (by decide)
  have hunderscore : c ≠ '_' := by
    rintro rfl
    exact absurd hhigh (by decide)
  simp [Token.isWordStart, isLetter, hascii, isAsciiLetter, hupper, hlower, hunderscore]

end Text

namespace Token

/-- A text that starts with something else than a space loses nothing. -/
theorem skip_cons {c : Char} {s : List Char} (h : isSpace c = false) : skip (c :: s) = c :: s := by
  simp [skip, h]

/-- The spaces. -/
theorem eq_of_isSpace {c : Char} (h : isSpace c = true) :
    c = ' ' ∨ c = '\t' ∨ c = '\r' ∨ c = '\n' := by
  simpa [isSpace, or_assoc] using h

/-- A blank at the start of a text is passed over. -/
@[simp] theorem skip_blank (s : List Char) : skip (' ' :: s) = skip s := by
  simp [skip, isSpace]

/-- A closing character is read where it stands. -/
theorem closing?_self {c : Char} (h : isSpace c = false) (s : List Char) :
    closing? c (c :: s) = some s := by
  simp [closing?, skip_cons h]

/-- What a word that is read whole looks like. -/
theorem word?_self {w : List Char} (h : word? w = some (w, [])) :
    ∃ c cs, w = c :: cs ∧ isWordStart c = true ∧ cs.all isWordChar = true := by
  cases w with
  | nil => simp [word?] at h
  | cons c cs =>
      simp only [word?] at h
      split at h
      · next hc =>
          simp only [Option.some.injEq, Prod.mk.injEq, List.cons.injEq, true_and] at h
          exact ⟨c, cs, rfl, hc, by simpa using List.dropWhile_eq_nil_iff.1 h.2⟩
      · simp at h

/-- A text that starts like a word and has nothing else is a word. -/
theorem word?_of_all {c : Char} {cs : List Char} (hc : isWordStart c = true)
    (hcs : cs.all isWordChar = true) : word? (c :: cs) = some (c :: cs, []) := by
  have hnil : ∀ d ∈ ([] : List Char).head?, isWordChar d = false := by simp
  obtain ⟨htake, hdrop⟩ := Text.takeWhile_run hcs hnil
  rw [List.append_nil] at htake hdrop
  rw [word?, if_pos hc, htake, hdrop]

/-- A text that starts with a word starts like one. -/
theorem word?_start {s word rest : List Char} (h : word? s = some (word, rest)) :
    ∃ c after, s = c :: after ∧ isWordStart c = true := by
  cases s with
  | nil => simp [word?] at h
  | cons c after =>
      refine ⟨c, after, rfl, ?_⟩
      by_contra hc
      simp [word?, hc] at h

/-- What begins a word may go on a word. -/
theorem isWordChar_of_start {c : Char} (h : isWordStart c = true) : isWordChar c = true := by
  simp only [isWordStart, isWordChar, Text.isAlphanumeric, Bool.or_eq_true] at h ⊢
  exact h.imp_left .inl

/-- A character of a word is no space. -/
theorem isSpace_of_isWordChar {c : Char} (h : isWordChar c = true) : isSpace c = false := by
  refine Bool.eq_false_iff.2 fun hspace => ?_
  rcases eq_of_isSpace hspace with rfl | rfl | rfl | rfl <;> exact absurd h (by decide)

/-- What is an ASCII letter in upper case begins words in every case. -/
theorem isWordStart_of_toUpper {c : Char} (h : Text.isAsciiLetter c.toUpper = true) :
    isWordStart c = true := by
  have hletter : Text.isAsciiLetter c = true := by
    unfold Char.toUpper at h
    split at h
    · next hlower =>
        simp only [Text.isAsciiLetter, Bool.or_eq_true, Bool.and_eq_true, decide_eq_true_eq]
        exact .inr hlower
    · exact h
  have hascii : c.toNat < 128 := by
    simp only [Text.isAsciiLetter, Bool.or_eq_true, Bool.and_eq_true, decide_eq_true_eq] at hletter
    rcases hletter with ⟨-, hlast⟩ | ⟨-, hlast⟩
    · exact Nat.lt_of_le_of_lt (UInt32.le_iff_toNat_le.1 hlast) (by decide)
    · exact Nat.lt_of_le_of_lt (UInt32.le_iff_toNat_le.1 hlast) (by decide)
  simp [isWordStart, Text.isLetter, hascii, hletter]

/-- A word is one keyword at most. -/
theorem keyword_unique {keyword other : String} {word : List Char}
    (h : isKeyword keyword word = true) (h' : isKeyword other word = true) : keyword = other := by
  rw [isKeyword, beq_iff_eq] at h h'
  exact String.toList_inj.1 (h.symm.trans h')

/-- The names of functions are words. -/
theorem name_word (f : Function) : word? f.name.toList = some (f.name.toList, []) := by
  cases f <;> decide

/-- A word starts with no digit, bracket or quotation mark. -/
theorem wordStart_ne {c : Char} (h : isWordStart c = true) :
    Text.isAsciiDigit c = false ∧ c ≠ '[' ∧ c ≠ '(' ∧ ¬ (c = '\'' ∨ c = '"') := by
  refine ⟨?_, ?_, ?_, ?_⟩
  · by_contra hdigit
    simp [Text.isWordStart_of_digit (by simpa using hdigit)] at h
  · rintro rfl; exact absurd h (by decide)
  · rintro rfl; exact absurd h (by decide)
  · rintro (rfl | rfl) <;> exact absurd h (by decide)

/-- A word is read up to a character that cannot go on with it. -/
theorem word?_append {w rest : List Char} (hw : word? w = some (w, []))
    (hrest : ∀ c ∈ rest.head?, isWordChar c = false) : word? (w ++ rest) = some (w, rest) := by
  obtain ⟨c, cs, rfl, hc, hcs⟩ := word?_self hw
  obtain ⟨ht, hd⟩ := Text.takeWhile_run hcs hrest
  simp [word?, hc, ht, hd]

/-- A text that does not begin like a word has no keyword. -/
theorem keyword?_eq_none {keyword : String} {c : Char} {s : List Char}
    (h : isWordStart c = false) : keyword? keyword (c :: s) = none := by
  simp [keyword?, word?, h]

/-- A keyword is read where another word stands only if the letters agree. -/
theorem keyword?_append (keyword : String) {w rest : List Char} (hw : word? w = some (w, []))
    (hrest : ∀ c ∈ rest.head?, isWordChar c = false) :
    keyword? keyword (w ++ rest) = if isKeyword keyword w then some rest else none := by
  simp [keyword?, word?_append hw hrest]

/-- A blank ends a word. -/
theorem head_blank (s : List Char) : ∀ c ∈ (' ' :: s).head?, isWordChar c = false := by
  intro c hc
  obtain rfl : ' ' = c := by simpa using hc
  decide

/-- Whether a word of letters that a blank ends is a keyword. -/
theorem keyword?_blank (keyword : String) {w : List Char} (hw : word? w = some (w, []))
    (rest : List Char) :
    keyword? keyword (w ++ ' ' :: rest) =
      if isKeyword keyword w then some (' ' :: rest) else none :=
  keyword?_append keyword hw (head_blank rest)

/-- An operator is read from its text. -/
theorem operator?_sign (op : Operator) (rest : List Char) :
    operator? op.level (op.sign ++ ' ' :: rest) = some (op, ' ' :: rest) := by
  cases op with
  | or =>
      simp only [Operator.level, Operator.sign, operator?, keywordOr?]
      rw [keyword?_blank "OR" (by decide)]
      rfl
  | and =>
      simp only [Operator.level, Operator.sign, operator?, keywordOr?]
      rw [keyword?_blank "AND" (by decide)]
      rfl
  | isIn =>
      have hnot : keyword? "NOT" ('I' :: 'N' :: ' ' :: rest) = none :=
        keyword?_blank "NOT" (w := ['I', 'N']) (by decide) rest
      have hin : keyword? "IN" ('I' :: 'N' :: ' ' :: rest) = some (' ' :: rest) :=
        keyword?_blank "IN" (w := ['I', 'N']) (by decide) rest
      simp [operator?, Operator.level, Operator.sign, hin, hnot]
  | notIn =>
      have hnot : keyword? "NOT" ('N' :: 'O' :: 'T' :: ' ' :: 'I' :: 'N' :: ' ' :: rest) =
          some (' ' :: 'I' :: 'N' :: ' ' :: rest) :=
        keyword?_blank "NOT" (w := ['N', 'O', 'T']) (by decide) _
      have hin : keyword? "IN" ('I' :: 'N' :: ' ' :: rest) = some (' ' :: rest) :=
        keyword?_blank "IN" (w := ['I', 'N']) (by decide) rest
      have hskip : skip ('I' :: 'N' :: ' ' :: rest) = 'I' :: 'N' :: ' ' :: rest :=
        skip_cons (by decide)
      simp [operator?, Operator.level, Operator.sign, hnot, hskip, hin]
  | _ => simp [operator?, Operator.level, Operator.sign]

/-- A tighter level does not take an operator for one of its own. -/
theorem operator?_tighter (op : Operator) {m : Level} (hm : m.rank < op.level.rank)
    (rest : List Char) : operator? m (op.sign ++ ' ' :: rest) = none := by
  have hand : ∀ keyword, isKeyword keyword ['A', 'N', 'D'] = false →
      keyword? keyword ('A' :: 'N' :: 'D' :: ' ' :: rest) = none := fun keyword h => by
    have := keyword?_blank keyword (w := ['A', 'N', 'D']) (by decide) rest
    simpa [h] using this
  have hor : ∀ keyword, isKeyword keyword ['O', 'R'] = false →
      keyword? keyword ('O' :: 'R' :: ' ' :: rest) = none := fun keyword h => by
    have := keyword?_blank keyword (w := ['O', 'R']) (by decide) rest
    simpa [h] using this
  cases m with
  | negation | minus | primary => rfl
  | disjunction => cases op <;> simp [Level.rank, Operator.level] at hm
  | conjunction =>
      cases op <;> simp [Level.rank, Operator.level] at hm
      simp [operator?, Operator.sign, keywordOr?, hor "AND" (by decide), Text.after?]
  | comparison =>
      cases op <;> simp [Level.rank, Operator.level] at hm
      · simp [operator?, Operator.sign, hor "NOT" (by decide), hor "IN" (by decide)]
      · simp [operator?, Operator.sign, hand "NOT" (by decide), hand "IN" (by decide)]
  | sum | product =>
      cases op <;> simp [Level.rank, Operator.level] at hm <;> simp [operator?, Operator.sign]

/-- The text of an operator starts with neither a space nor an opening parenthesis. -/
theorem sign_head (op : Operator) :
    ∃ c cs, op.sign = c :: cs ∧ isSpace c = false ∧ c ≠ '(' := by
  cases op <;> exact ⟨_, _, rfl, by decide, by decide⟩

/-- Nothing in `rest` goes on with an expression of a level. -/
structure Stops (level : Level) (rest : List Char) : Prop where
  /-- No operator of the level or a tighter one follows. -/
  no_operator : ∀ m : Level, m.rank ≤ level.rank → operator? m (skip rest) = none
  /-- No word and no number goes on. -/
  no_word : ∀ c ∈ rest.head?, isWordChar c = false
  /-- No step of a path follows. -/
  no_step : ∀ c ∈ rest.head?, c ≠ '.' ∧ c ≠ '['
  /-- No arguments follow. -/
  no_call : opening? '(' rest = none

namespace Stops

/-- What stops a loose expression stops a tighter one. -/
theorem mono {level m : Level} {rest : List Char} (h : Stops level rest)
    (hm : m.rank ≤ level.rank) : Stops m rest where
  no_operator k hk := h.no_operator k (Nat.le_trans hk hm)
  no_word := h.no_word
  no_step := h.no_step
  no_call := h.no_call

/-- The end of the text stops every expression. -/
theorem nil (level : Level) : Stops level [] where
  no_operator m _ := by cases m <;> decide
  no_word := by simp
  no_step := by simp
  no_call := by decide

/-- The characters that end an item, an argument, a step or a parenthesis. -/
def closers : List Char := [')', ']', ',']

/-- A closing character stops every expression. -/
theorem closer (level : Level) {c : Char} (hc : c ∈ closers) (s : List Char) :
    Stops level (c :: s) := by
  simp only [closers, List.mem_cons, List.not_mem_nil, or_false] at hc
  obtain rfl | rfl | rfl := hc <;>
    refine ⟨fun m _ => ?_, by simp; decide, by simp, by simp [opening?, skip, isSpace]⟩ <;>
    cases m <;> simp [operator?, skip, isSpace, keywordOr?, keyword?, word?, Text.after?,
      show isWordStart ')' = false by decide, show isWordStart ']' = false by decide,
      show isWordStart ',' = false by decide]

/-- A looser operator stops a tighter expression. -/
theorem operator {level : Level} (op : Operator) (h : level.rank < op.level.rank)
    (s : List Char) : Stops level (' ' :: (op.sign ++ ' ' :: s)) := by
  obtain ⟨c, cs, hsign, hspace, hcall⟩ := sign_head op
  have hskip : skip (op.sign ++ ' ' :: s) = op.sign ++ ' ' :: s := by
    rw [hsign]
    exact skip_cons hspace
  refine ⟨fun m hm => ?_, head_blank _, by simp, ?_⟩
  · rw [skip_blank, hskip]
    exact operator?_tighter op (by omega) s
  · rw [opening?, skip_blank, hskip, hsign]
    simp [hcall.symm]

end Stops

/-- A whole number of 63 bits is read from its digits. -/
theorem number?_digits {level : Level} {n : Nat} (hn : n < pow2 63) {rest : List Char}
    (hrest : Stops level rest) :
    number? (Nat.toDigits 10 n ++ rest) = some (.int n, rest) := by
  have hdigit : ∀ c ∈ rest.head?, Text.isAsciiDigit c = false := fun c hc => by
    have := hrest.no_word c hc
    by_contra h
    simp [Text.isWordChar_of_digit (by simpa using h)] at this
  obtain ⟨ht, hd⟩ := Text.takeWhile_run (Text.all_toDigits n) hdigit
  have hfraction : fraction rest = ([], rest) := by
    cases rest with
    | nil => rfl
    | cons c s =>
      have hc := (hrest.no_step c (by simp)).1
      unfold fraction
      split
      · simp_all
      · rfl
  have hexponent : exponent? rest = none := by
    cases rest with
    | nil => rfl
    | cons c s =>
      have hc := hrest.no_word c (by simp)
      have he : ¬ (c = 'e' ∨ c = 'E') := by
        rintro (rfl | rfl) <;> exact absurd hc (by decide)
      simp [exponent?, he]
  unfold number?
  rw [ht, hd]
  split
  · next h => exact absurd h Nat.toDigits_ne_nil
  · simp [hfraction, hexponent, Text.natOfDigits_toDigits, hn]

/-- A text is read from its escaped characters up to the closing mark. -/
theorem quotedRest?_escaped (cs rest : List Char) :
    quotedRest? '"' (cs.flatMap (fun c => if c = '"' ∨ c = '\\' then ['\\', c] else [c]) ++
      '"' :: rest) = some (cs, rest) := by
  induction cs with
  | nil => simp [quotedRest?]
  | cons c cs ih =>
      by_cases hquote : c = '"'
      · subst hquote
        simp [quotedRest?, ih]
      · by_cases hslash : c = '\\'
        · subst hslash
          simp [quotedRest?, ih]
        · simp [quotedRest?, ih, hquote, hslash]

/-- What a backslash does not escape stands for itself, up to the closing mark. -/
theorem quotedRest?_plain {mark c : Char} (hc : c ≠ '\\') (s : List Char) :
    quotedRest? mark (c :: s) =
      if c = mark then some ([], s)
      else (quotedRest? mark s).map fun (cs, after) => (c :: cs, after) := by
  rw [quotedRest?]
  · intro h
    exact absurd h hc
  · intro d rest h
    exact absurd h hc

/-- A text without backslashes and marks is read as it is. -/
theorem quotedRest?_verbatim {mark : Char} (hmark : mark ≠ '\\') {cs : List Char}
    (hcs : ∀ c ∈ cs, c ≠ '\\' ∧ c ≠ mark) (rest : List Char) :
    quotedRest? mark (cs ++ mark :: rest) = some (cs, rest) := by
  induction cs with
  | nil => rw [List.nil_append, quotedRest?_plain hmark, if_pos rfl]
  | cons c cs ih =>
      obtain ⟨hplain, hne⟩ := hcs c List.mem_cons_self
      rw [List.cons_append, quotedRest?_plain hplain, if_neg hne,
        ih fun d hd => hcs d (List.mem_cons_of_mem _ hd)]
      rfl

/-- What neither ends a text after a backslash nor is escaped by one is no backslash. -/
theorem ne_backslash {c : Char} {s : List Char} (hend : c = '\\' → s = [] → False)
    (hescape : ∀ d rest, c = '\\' → s = d :: rest → False) : c ≠ '\\' := by
  intro h
  cases s with
  | nil => exact hend h rfl
  | cons d rest => exact hescape d rest h rfl

/-- A text in quotation marks is what stands before its closing mark, and shorter than that if there
are backslashes. -/
theorem quotedRest?_used {mark : Char} {s cs rest : List Char}
    (h : quotedRest? mark s = some (cs, rest)) :
    ∃ used, s = used ++ mark :: rest ∧ cs.length ≤ used.length ∧
      ('\\' ∈ used → cs.length < used.length) ∧ ('\\' ∉ used → cs = used) := by
  induction s using quotedRest?.induct mark generalizing cs rest with
  | case1 => simp [quotedRest?] at h
  | case2 => simp [quotedRest?] at h
  | case3 c s ih =>
      simp only [quotedRest?, Option.map_eq_some_iff, Prod.mk.injEq, Prod.exists] at h
      obtain ⟨ds, left, hs, rfl, rfl⟩ := h
      obtain ⟨used, rfl, hle, _⟩ := ih hs
      refine ⟨'\\' :: c :: used, rfl, ?_, fun _ => ?_,
        fun hmem => absurd List.mem_cons_self hmem⟩ <;>
        simp only [List.length_cons] <;> omega
  | case4 s hend hescape =>
      have hplain := ne_backslash hend hescape
      rw [quotedRest?_plain hplain, if_pos rfl] at h
      cases h
      exact ⟨[], rfl, Nat.le_refl _, (fun hmem => by cases hmem), fun _ => rfl⟩
  | case5 c s hend hescape hmark ih =>
      have hplain := ne_backslash hend hescape
      rw [quotedRest?_plain hplain, if_neg hmark] at h
      simp only [Option.map_eq_some_iff, Prod.mk.injEq, Prod.exists] at h
      obtain ⟨ds, left, hs, rfl, rfl⟩ := h
      obtain ⟨used, rfl, hle, hshort, hsame⟩ := ih hs
      refine ⟨c :: used, rfl, by simpa using hle, fun hmem => ?_, fun hmem => ?_⟩
      · have hused : '\\' ∈ used := by simpa [hplain.symm] using hmem
        simpa using hshort hused
      · rw [hsame fun hused => hmem (List.mem_cons_of_mem _ hused)]

/-- The name of a step is read up to a character that cannot go on with it. -/
theorem stepName?_append {name : String} (hname : Expr.IsStepName name) {rest : List Char}
    (hrest : ∀ c ∈ rest.head?, isWordChar c = false) :
    stepName? (name.toList ++ rest) = some (name, rest) := by
  obtain ⟨ht, hd⟩ := Text.takeWhile_run hname.2 hrest
  unfold stepName?
  rw [ht, hd]
  split
  · next h => exact absurd h hname.1
  · simp

end Token

end SeriesQuery
