import SeriesQuery.Proofs.Expr.Levels

/-!
# Printed expressions are read back

`Expr.parse_print` says that reading the text of a writable tree gives the tree. A text that is
followed by something is read at its own level first (`Readable.bare`), and a chain of operators by
going on with the chain at its left operand (`Readable.chained`). From these two, every place that
asks for a level is read (`Readable.read_textAt`): through the looser levels where the text fits,
and through parentheses where it does not.
-/

namespace SeriesQuery.Expr

open Token

/-- The text of a whole number is its digits. -/
theorem literalText_nat (n : Nat) : literalText (.num (.int n)) = Nat.toDigits 10 n :=
  Nat.toList_repr

/-- The digits of a number start with a digit. -/
theorem toDigits_head (n : Nat) :
    ∃ c cs, Nat.toDigits 10 n = c :: cs ∧ Text.isAsciiDigit c = true := by
  have hall := Text.all_toDigits n
  cases h : Nat.toDigits 10 n with
  | nil => exact absurd h Nat.toDigits_ne_nil
  | cons c cs => exact ⟨c, cs, rfl, by simp_all⟩

/-- Parentheses aside, a place that asks for a level holds the text itself. -/
theorem textAt_cases (level : Level) (e : Expr) :
    (e.level.rank ≤ level.rank ∧ textAt level e = e.text) ∨
      (level.rank < e.level.rank ∧ textAt level e = '(' :: (e.text ++ [')'])) := by
  unfold textAt bracketed
  split
  · next h => exact .inl ⟨h, rfl⟩
  · next h => exact .inr ⟨by omega, rfl⟩

/-- How a text begins: with no space, and with a minus sign only if it is an opposite number. -/
def Begins (e : Expr) (c : Char) : Prop :=
  isSpace c = false ∧ (e.level = .primary → c ≠ '-')

/-- A character of a word is neither a space nor a minus sign. -/
theorem begins_word {e : Expr} {c : Char} (h : isWordChar c = true) : Begins e c := by
  refine ⟨isSpace_of_isWordChar h, fun _ => ?_⟩
  rintro rfl
  exact absurd h (by decide)

/-- The level of an operation is never that of a primary expression. -/
theorem level_operator_ne (op : Operator) : op.level ≠ .primary := by
  cases op <;> decide

/-- Every text begins. -/
theorem text_head : ∀ {e : Expr}, Writable e → ∃ c cs, text e = c :: cs ∧ Begins e c
  | literal .null, _ => ⟨_, _, rfl, begins_word (by decide)⟩
  | literal (.bool true), _ => ⟨_, _, rfl, begins_word (by decide)⟩
  | literal (.bool false), _ => ⟨_, _, rfl, begins_word (by decide)⟩
  | literal (.num (.int z)), h => by
      obtain ⟨n, rfl⟩ := Int.eq_ofNat_of_zero_le h.1
      obtain ⟨c, cs, hn, hc⟩ := toDigits_head n
      exact ⟨c, cs, (literalText_nat n).trans hn, begins_word (Text.isWordChar_of_digit hc)⟩
  | literal (.str _), _ => ⟨_, _, rfl, by decide, fun _ => by decide⟩
  | array _, _ => ⟨_, _, rfl, by decide, fun _ => by decide⟩
  | path root steps, h => by
      obtain ⟨c, cs, hroot, hc, _⟩ := word?_self h.1.1
      exact ⟨c, cs ++ stepsText steps, by simp [text, hroot],
        begins_word (isWordChar_of_start hc)⟩
  | call f args, _ => by
      obtain ⟨c, cs, hname, hc, _⟩ := word?_self (name_word f)
      exact ⟨c, cs ++ '(' :: (itemsText args ++ [')']), by simp [text, hname],
        begins_word (isWordChar_of_start hc)⟩
  | not _, _ => ⟨_, _, rfl, by decide, fun _ => by decide⟩
  | neg _, _ => ⟨_, _, rfl, by decide, fun h => Level.noConfusion h⟩
  | binary op left right, h => by
      obtain ⟨_, hleft⟩ | ⟨_, hleft⟩ := textAt_cases op.leftLevel left <;> rw [textAt] at hleft
      · obtain ⟨c, cs, hc, hspace, _⟩ := text_head h.1
        exact ⟨c, _, by rw [text, hleft, hc, List.cons_append], hspace,
          fun h => absurd h (level_operator_ne op)⟩
      · exact ⟨'(', _, by rw [text, hleft, List.cons_append], by decide,
          fun h => absurd h (level_operator_ne op)⟩

/-- A text is not skipped. -/
theorem skip_text {e : Expr} (h : Writable e) (rest : List Char) :
    skip (text e ++ rest) = text e ++ rest := by
  obtain ⟨c, cs, hc, hspace, _⟩ := text_head h
  rw [hc]
  exact skip_cons hspace

/-- A text in its place is not skipped. -/
theorem skip_textAt {e : Expr} (h : Writable e) (level : Level) (rest : List Char) :
    skip (textAt level e ++ rest) = textAt level e ++ rest := by
  obtain ⟨_, htext⟩ | ⟨_, htext⟩ := textAt_cases level e
  · rw [htext, skip_text h]
  · rw [htext]
    exact skip_cons (by decide)

/-- A primary expression starts with no minus sign. -/
theorem minus?_text {e : Expr} (h : Writable e) (hlevel : e.level = .primary) (rest : List Char) :
    minus? (text e ++ rest) = none := by
  obtain ⟨c, cs, hc, _, hminus⟩ := text_head h
  rw [hc]
  unfold minus?
  split
  · next heq => exact absurd (List.cons.inj heq).1 (hminus hlevel)
  · rfl

/-- A word that is not `NOT` is no sign of a negation. -/
theorem negation?_word {w rest : List Char} (hw : word? w = some (w, []))
    (hrest : ∀ c ∈ rest.head?, isWordChar c = false) (hnot : isKeyword "NOT" w = false) :
    negation? (w ++ rest) = none := by
  have hkeyword := keyword?_append "NOT" hw hrest
  obtain ⟨c, cs, rfl, hc, _⟩ := word?_self hw
  have hne : '!' ≠ c := by
    rintro rfl
    exact absurd hc (by decide)
  simp only [hnot, Bool.false_eq_true, if_false] at hkeyword
  simpa [negation?, keywordOr?, Text.after?, hne] using hkeyword

/-- What begins like no word is no sign of a negation, except the exclamation mark. -/
theorem negation?_mark {c : Char} (hc : isWordStart c = false) (hne : c ≠ '!') (s : List Char) :
    negation? (c :: s) = none := by
  simp [negation?, keywordOr?, keyword?_eq_none hc, Text.after?, hne.symm]

/-- The steps of a path do not go on with its word. -/
theorem stepsText_head (steps : List Step) {rest : List Char}
    (hrest : ∀ c ∈ rest.head?, isWordChar c = false) :
    ∀ c ∈ (stepsText steps ++ rest).head?, isWordChar c = false := by
  cases steps with
  | nil => simpa [stepsText] using hrest
  | cons step steps =>
      cases step with
      | key name => simp [stepsText]; decide
      | index e => simp [stepsText]; decide

/-- A left operand binds tighter than a negation if its operator does. -/
theorem leftLevel_rank_lt (op : Operator) :
    op.level.rank < Level.negation.rank → op.leftLevel.rank < Level.negation.rank := by
  cases op <;> decide

/-- No sign of a negation stands in front of an expression that binds tighter. -/
theorem negation?_text : ∀ {e : Expr}, Writable e → e.level.rank < Level.negation.rank →
    ∀ {rest : List Char}, (∀ c ∈ rest.head?, isWordChar c = false) →
      negation? (text e ++ rest) = none
  | literal .null, _, _, _, hrest =>
      negation?_word (w := ['n', 'u', 'l', 'l']) (by decide) hrest (by decide)
  | literal (.bool true), _, _, _, hrest =>
      negation?_word (w := ['t', 'r', 'u', 'e']) (by decide) hrest (by decide)
  | literal (.bool false), _, _, _, hrest =>
      negation?_word (w := ['f', 'a', 'l', 's', 'e']) (by decide) hrest (by decide)
  | literal (.num (.int z)), h, _, _, _ => by
      obtain ⟨n, rfl⟩ := Int.eq_ofNat_of_zero_le h.1
      obtain ⟨c, cs, hn, hc⟩ := toDigits_head n
      rw [text, literalText_nat, hn]
      refine negation?_mark (Text.isWordStart_of_digit hc) ?_ _
      rintro rfl
      exact absurd hc (by decide)
  | literal (.str _), _, _, _, _ => negation?_mark (by decide) (by decide) _
  | array _, _, _, _, _ => negation?_mark (by decide) (by decide) _
  | path root steps, h, _, rest, hrest => by
      rw [text, List.append_assoc]
      exact negation?_word h.1.1 (stepsText_head steps hrest) (h.1.2 "NOT" (by decide))
  | call f args, _, _, _, _ => by
      rw [text, List.append_assoc, List.cons_append]
      refine negation?_word (name_word f) (by simp; decide) ?_
      cases f <;> decide
  | not _, _, hlevel, _, _ => absurd hlevel (Nat.lt_irrefl _)
  | neg _, _, _, _, _ => negation?_mark (by decide) (by decide) _
  | binary op left right, h, hlevel, rest, _ => by
      have hle := leftLevel_rank_lt op hlevel
      rw [text, List.append_assoc, List.cons_append]
      obtain ⟨hfits, hleft⟩ | ⟨_, hleft⟩ := textAt_cases op.leftLevel left <;> rw [textAt] at hleft
      · rw [hleft]
        exact negation?_text h.1 (Nat.lt_of_le_of_lt hfits hle) (head_blank _)
      · rw [hleft]
        exact negation?_mark (by decide) (by decide) _

/-- A text is not empty. -/
theorem length_text_append {e : Expr} (h : Writable e) (rest : List Char) :
    rest.length < (text e ++ rest).length := by
  obtain ⟨c, cs, hc, _⟩ := text_head h
  simp only [hc, List.cons_append, List.length_cons, List.length_append]
  omega

/-- A text in its place is not empty. -/
theorem length_textAt_append {e : Expr} (h : Writable e) (level : Level) (rest : List Char) :
    rest.length < (textAt level e ++ rest).length := by
  obtain ⟨_, htext⟩ | ⟨_, htext⟩ := textAt_cases level e
  · rw [htext]
    exact length_text_append h rest
  · simp only [htext, List.cons_append, List.length_cons, List.length_append]
    omega

/-- A text is read back at its own level, whatever stops it. -/
structure Readable (e : Expr) : Prop where
  /-- Nothing that follows goes on with the expression. -/
  bare : ∀ rest, Stops e.level rest → read e.level (text e ++ rest) = .ok (e, rest)
  /-- What follows may go on with the chain that the expression is. -/
  chained : e.level.chains = true → ∀ rest, Stops e.level.tighter rest →
    read e.level (text e ++ rest) = chain e.level e.level.tighter e rest

namespace Readable

variable {e : Expr} {level : Level} {rest : List Char}

/-- A text is read back at every looser level. -/
theorem read_text (hr : Readable e) (h : Writable e) (hle : e.level.rank ≤ level.rank)
    (hrest : Stops level rest) : read level (text e ++ rest) = .ok (e, rest) :=
  read_looser hle (hr.bare rest (hrest.mono hle)) (length_text_append h rest) hrest
    (fun hlevel _ => negation?_text h hlevel hrest.no_word)
    (fun hlevel => minus?_text h hlevel rest)

/-- A text is read back at the loosest level. -/
theorem read_disjunction (hr : Readable e) (h : Writable e) (hrest : Stops .disjunction rest) :
    read .disjunction (text e ++ rest) = .ok (e, rest) := by
  refine hr.read_text h ?_ hrest
  cases e.level <;> decide

/-- A text in its place is read back. -/
theorem read_textAt (hr : Readable e) (h : Writable e) (hrest : Stops level rest) :
    read level (textAt level e ++ rest) = .ok (e, rest) := by
  obtain ⟨hfits, htext⟩ | ⟨_, htext⟩ := textAt_cases level e
  · rw [htext]
    exact hr.read_text h hfits hrest
  · have hinner : read .disjunction (text e ++ ')' :: rest) = .ok (e, ')' :: rest) :=
      hr.read_disjunction h (Stops.closer _ (by decide) rest)
    have hprimary : read .primary ('(' :: (text e ++ ')' :: rest)) = .ok (e, rest) :=
      read_parentheses (skip_text h _) hinner
    have hlen : rest.length < ('(' :: (text e ++ ')' :: rest)).length := by
      simp only [List.length_cons, List.length_append]
      omega
    rw [htext, List.cons_append, List.append_assoc, List.singleton_append]
    exact read_looser (Nat.zero_le _) hprimary hlen hrest
      (fun _ _ => negation?_mark (by decide) (by decide) _) (fun _ => rfl)

/-- A text at the place of a left operand is read as the start of a chain. -/
theorem chain_textAt (hr : Readable e) (h : Writable e) (hlevel : level.chains = true)
    (hrest : Stops level.tighter rest) :
    read level (textAt level e ++ rest) = chain level level.tighter e rest := by
  -- a chain of the same level goes on, and every other text is one operand
  have hprimary : level ≠ .primary := by
    rintro rfl
    cases hlevel
  have hrank := Level.rank_tighter hprimary
  by_cases heq : e.level = level
  · subst heq
    obtain ⟨_, htext⟩ | ⟨hlt, _⟩ := textAt_cases e.level e
    · rw [htext]
      exact hr.chained hlevel rest hrest
    · exact absurd hlt (Nat.lt_irrefl _)
  · -- elsewhere the place is as tight as the one of the operands of the chain
    have htight : textAt level e = textAt level.tighter e := by
      have hne : e.level.rank ≠ level.rank := fun h => heq (Level.eq_of_rank_eq h)
      have hiff : e.level.rank ≤ level.rank ↔ e.level.rank ≤ level.tighter.rank := by omega
      simp only [textAt, bracketed, hiff]
    rw [htight]
    exact read_chain hlevel (hr.read_textAt h hrest) (length_textAt_append h _ rest)

end Readable

/-- A tree is readable if its text is, and its level has no chains. -/
theorem readable_of_bare {e : Expr} (hlevel : e.level.chains = false)
    (h : ∀ rest, Stops e.level rest → read e.level (text e ++ rest) = .ok (e, rest)) :
    Readable e where
  bare := h
  chained hchains := by simp [hlevel] at hchains

/-- A word that is written in lower case is read as its constant. -/
theorem readable_word {v : Json} {w : List Char} (hw : word? w = some (w, []))
    (htext : literalText v = w)
    (hread : ∀ rest, word? (w ++ rest) = some (w, rest) →
      read .primary (w ++ rest) = .ok (.literal v, rest)) : Readable (.literal v) := by
  refine readable_of_bare rfl fun rest hrest => ?_
  rw [text, htext]
  exact hread rest (word?_append hw hrest.no_word)

/-- Constants that have a text are readable. -/
theorem readable_literal : ∀ {v : Json}, WritableLiteral v → Readable (.literal v)
  | .null, _ =>
      readable_word (w := ['n', 'u', 'l', 'l']) (by decide) rfl fun rest h => by
        rw [read_word h]
        rfl
  | .bool true, _ =>
      readable_word (w := ['t', 'r', 'u', 'e']) (by decide) rfl fun rest h => by
        rw [read_word h]
        rfl
  | .bool false, _ =>
      readable_word (w := ['f', 'a', 'l', 's', 'e']) (by decide) rfl fun rest h => by
        rw [read_word h]
        rfl
  | .num (.int z), h => by
      obtain ⟨n, rfl⟩ := Int.eq_ofNat_of_zero_le h.1
      obtain ⟨c, cs, hn, hc⟩ := toDigits_head n
      have hbound : n < pow2 63 := by
        have hmax := h.2
        rw [show pow2 63 = 9223372036854775808 from rfl]
        simp only [Int64.toInt_maxValue] at hmax
        omega
      refine readable_of_bare rfl fun rest hrest => ?_
      have hnumber := number?_digits hbound hrest
      rw [text, literalText_nat, hn]
      rw [hn] at hnumber
      exact read_number hc hnumber
  | .str s, _ => by
      refine readable_of_bare rfl fun rest _ => ?_
      have hquoted := quotedRest?_escaped s.toList rest
      simpa [text, literalText, level] using read_quoted (.inr rfl) hquoted

/-- No expression starts with a closing bracket. -/
theorem read_closer {c : Char} (hc : c = ')' ∨ c = ']') (s : List Char) :
    ∃ left, read .disjunction (c :: s) = .error left := by
  have hword : isWordStart c = false := by
    rcases hc with rfl | rfl <;> decide
  have hne : c ≠ '!' := by
    rcases hc with rfl | rfl <;> decide
  have hprimary : read .primary (c :: s) = .error (c :: s) := by
    rw [read]
    rcases hc with rfl | rfl <;> simp [Text.isAsciiDigit, word?, hword]
  refine ⟨_, read_error (by decide) hprimary (fun _ => negation?_mark hword hne s) fun _ => ?_⟩
  rcases hc with rfl | rfl <;> rfl

/-- An item ends where a comma or the closing bracket follows. -/
theorem head_more (es : List Expr) {c : Char} (hc : c = ')' ∨ c = ']') (s : List Char) :
    ∃ d rest, moreItemsText es ++ c :: s = d :: rest ∧ d ∈ Stops.closers := by
  cases es with
  | nil => exact ⟨c, s, rfl, by rcases hc with rfl | rfl <;> decide⟩
  | cons e es => exact ⟨',', _, rfl, by decide⟩

/-- An item is read up to the next comma or the closing bracket. -/
theorem read_item (e : Expr) (hr : Readable e) (h : Writable e) (es : List Expr) {c : Char}
    (hc : c = ')' ∨ c = ']') (s : List Char) :
    read .disjunction (text e ++ (moreItemsText es ++ c :: s)) =
      .ok (e, moreItemsText es ++ c :: s) := by
  obtain ⟨d, rest, hmore, hd⟩ := head_more es hc s
  rw [hmore]
  exact hr.read_disjunction h (Stops.closer _ hd rest)

/-- What begins with a step of a path, and what stops a primary expression, are no arguments. -/
theorem opening?_stepsText (steps : List Step) {rest : List Char} (hrest : Stops .primary rest) :
    opening? '(' (stepsText steps ++ rest) = none := by
  cases steps with
  | nil => exact hrest.no_call
  | cons step steps => cases step <;> simp [stepsText, opening?, skip_cons, isSpace]

/-- A name is the name of its function. -/
theorem ofName?_name (f : Function) :
    Function.ofName? (String.ofList f.name.toList) = some f := by
  cases f <;> decide

/-- The names of functions are no constants. -/
theorem name_not_constant (f : Function) : ¬ IsConstant f.name.toList := by
  unfold IsConstant
  cases f <;> decide

/-- A variable is no constant. -/
theorem IsVariable.not_constant {root : String} (h : IsVariable root) :
    ¬ IsConstant root.toList := by
  unfold IsConstant
  rw [h.2 "TRUE" (by decide), h.2 "FALSE" (by decide), h.2 "NULL" (by decide)]
  decide

/-- A comma before an item. -/
theorem comma?_item {e : Expr} (h : Writable e) (s : List Char) :
    comma? (',' :: ' ' :: (text e ++ s)) = some (text e ++ s) := by
  rw [comma?, skip_cons (by decide)]
  simp only [skip_blank, skip_text h]

/-- A closing bracket is no comma. -/
theorem comma?_closer {c : Char} (hc : c = ')' ∨ c = ']') (s : List Char) :
    comma? (c :: s) = none := by
  rcases hc with rfl | rfl <;> rw [comma?, skip_cons (by decide)] <;> rfl

/-- Items and the closing bracket after them are not skipped. -/
theorem skip_items {es : List Expr} (h : WritableItems es) {c : Char} (hc : c = ')' ∨ c = ']')
    (s : List Char) : skip (itemsText es ++ c :: s) = itemsText es ++ c :: s := by
  cases es with
  | nil => rcases hc with rfl | rfl <;> exact skip_cons (by decide)
  | cons e es =>
      rw [itemsText, List.append_assoc]
      exact skip_text h.1 _

/-- The text of an operation and what follows it, operand by operand. -/
theorem text_binary (op : Operator) (left right : Expr) (rest : List Char) :
    text (.binary op left right) ++ rest =
      textAt op.leftLevel left ++
        ' ' :: (op.sign ++ ' ' :: (textAt op.rightLevel right ++ rest)) := by
  simp [text, textAt]

/-- Operators that form no chains compare. -/
theorem level_eq_comparison {op : Operator} (h : op.level.chains = false) :
    op.level = .comparison := by
  cases op <;> first | rfl | cases h

/-- The left operand of a chain is a chain of the same level. -/
theorem leftLevel_of_chains {op : Operator} (h : op.level.chains = true) :
    op.leftLevel = op.level := by
  cases op <;> first | rfl | cases h

/-- An operation on readable operands is readable. -/
theorem readable_binary {op : Operator} {left right : Expr} (hl : Writable left)
    (hr : Writable right) (ihl : Readable left) (ihr : Readable right) :
    Readable (.binary op left right) := by
  have hrank : op.level.tighter.rank < op.level.rank := by
    have := Level.rank_tighter (level_operator_ne op)
    omega
  by_cases hchains : op.level.chains = true
  · -- the left operand is the start of the chain, the right one its next operand
    have hchain : ∀ rest, Stops op.level.tighter rest →
        read op.level (text (.binary op left right) ++ rest) =
          chain op.level op.level.tighter (.binary op left right) rest := fun rest hrest => by
      have hleft := ihl.chain_textAt hl hchains
        (Stops.operator op hrank (textAt op.rightLevel right ++ rest))
      have hright : read op.level.tighter (textAt op.rightLevel right ++ rest) =
          .ok (right, rest) := ihr.read_textAt hr hrest
      rw [text_binary, leftLevel_of_chains hchains, hleft]
      exact chain_operator (skip_textAt hr _ rest) hright (length_textAt_append hr _ rest)
    refine ⟨fun rest hrest => ?_, fun _ => hchain⟩
    rw [level, hchain rest (hrest.mono (Nat.le_of_lt hrank))]
    exact chain_stop (hrest.no_operator _ (Nat.le_refl _))
  · -- a comparison takes one operator, and both its operands are sums
    have hcomparison := level_eq_comparison (by simpa using hchains)
    refine readable_of_bare (by simpa [level] using hchains) fun rest hrest => ?_
    rw [level, hcomparison] at hrest ⊢
    have hleftLevel : op.leftLevel = .sum := by rw [Operator.leftLevel, hcomparison]
    have hrightLevel : op.rightLevel = .sum := by rw [Operator.rightLevel, hcomparison]; rfl
    have hrest' : Stops .sum (' ' :: (op.sign ++ ' ' :: (textAt .sum right ++ rest))) :=
      Stops.operator op (by rw [hcomparison]; decide) _
    have hleft := ihl.read_textAt hl hrest'
    have hright := ihr.read_textAt hr (hrest.mono (by decide) : Stops .sum rest)
    rw [text_binary, hleftLevel, hrightLevel]
    exact read_comparison_operator hcomparison hleft (skip_textAt hr _ rest) hright

mutual
/-- Every writable tree is readable. -/
theorem readable : ∀ (e : Expr), Writable e → Readable e
  | literal v, h => readable_literal h
  | array items, h => by
      refine readable_of_bare rfl fun rest _ => ?_
      rw [text, List.cons_append, List.append_assoc, List.singleton_append]
      refine read_array ?_
      rw [skip_items h (.inr rfl)]
      exact readItems_text items h (.inr rfl) rest
  | path root steps, h => by
      refine readable_of_bare rfl fun rest hrest => ?_
      have hword := word?_append h.1.1 (stepsText_head steps hrest.no_word)
      have hread := read_variable hword h.1.not_constant (opening?_stepsText steps hrest)
      rw [readSteps_text steps h.2 hrest, String.ofList_toList] at hread
      rw [text, List.append_assoc]
      exact hread
  | call f args, h => by
      refine readable_of_bare rfl fun rest _ => ?_
      have hword : word? (f.name.toList ++ '(' :: (itemsText args ++ ')' :: rest)) =
          some (f.name.toList, '(' :: (itemsText args ++ ')' :: rest)) :=
        word?_append (name_word f) (by simp; decide)
      have hopening : opening? '(' ('(' :: (itemsText args ++ ')' :: rest)) =
          some (itemsText args ++ ')' :: rest) := by
        rw [opening?, skip_cons (by decide)]
        simp [skip_items h (.inl rfl)]
      have hcall : readCall f ('(' :: (itemsText args ++ ')' :: rest)) =
          some (.call f args, rest) := by
        rw [readCall]
        split
        · next after hafter =>
            obtain rfl : itemsText args ++ ')' :: rest = after := by
              simpa [hopening] using hafter
            simp [readItems_text args h (.inl rfl) rest,
              closing?_self (by decide : isSpace ')' = false)]
        · next hnone => simp [hopening] at hnone
      rw [text, List.append_assoc, List.cons_append, List.append_assoc, List.singleton_append]
      exact read_call hword (name_not_constant f) (ofName?_name f) hcall
  | not e, h => by
      have he : Writable e := h
      have ih := readable e he
      refine readable_of_bare rfl fun rest hrest => ?_
      have hsign : negation? ('N' :: 'O' :: 'T' :: ' ' :: (textAt .negation e ++ rest)) =
          some (textAt .negation e ++ rest) := by
        have hkeyword : keyword? "NOT" ('N' :: 'O' :: 'T' :: ' ' :: (textAt .negation e ++ rest)) =
            some (' ' :: (textAt .negation e ++ rest)) :=
          keyword?_blank "NOT" (w := ['N', 'O', 'T']) (by decide) _
        simp [negation?, keywordOr?, hkeyword, skip_textAt he]
      exact read_negation_sign hsign (ih.read_textAt he hrest)
  | neg e, h => by
      have he : Writable e := h
      have ih := readable e he
      refine readable_of_bare rfl fun rest hrest => ?_
      have hread := ih.read_textAt he hrest
      rw [← skip_textAt he] at hread
      exact read_minus_sign hread
  | binary op left right, h =>
      readable_binary h.1 h.2 (readable left h.1) (readable right h.2)

/-- Items are read up to the closing bracket. -/
theorem readItems_text : ∀ (es : List Expr), WritableItems es → ∀ {c : Char},
    c = ')' ∨ c = ']' → ∀ s, readItems (itemsText es ++ c :: s) = (es, c :: s)
  | [], _, c, hc, s => by
      obtain ⟨left, herror⟩ := read_closer hc s
      rw [itemsText, List.nil_append, readItems, herror]
  | e :: es, h, c, hc, s => by
      have hread := read_item e (readable e h.1) h.1 es hc s
      have hlen := length_text_append h.1 (moreItemsText es ++ c :: s)
      rw [itemsText, List.append_assoc, readItems, hread]
      simp only [hlen, if_true, readMoreItems_text es h.2 hc s]

/-- Further items are read up to the closing bracket. -/
theorem readMoreItems_text : ∀ (es : List Expr), WritableItems es → ∀ {c : Char},
    c = ')' ∨ c = ']' → ∀ s, readMoreItems (moreItemsText es ++ c :: s) = (es, c :: s)
  | [], _, c, hc, s => by
      rw [moreItemsText, List.nil_append, readMoreItems, comma?_closer hc]
  | e :: es, h, c, hc, s => by
      have hread := read_item e (readable e h.1) h.1 es hc s
      have hlen := length_text_append h.1 (moreItemsText es ++ c :: s)
      have hcomma := comma?_item h.1 (moreItemsText es ++ c :: s)
      have hshorter : (text e ++ (moreItemsText es ++ c :: s)).length <
          (',' :: ' ' :: (text e ++ (moreItemsText es ++ c :: s))).length := by
        simp only [List.length_cons]
        omega
      rw [moreItemsText, List.cons_append, List.cons_append, List.append_assoc, readMoreItems,
        hcomma]
      simp only [hshorter, hread, hlen.trans hshorter, if_true, readMoreItems_text es h.2 hc s]

/-- The steps of a path are read up to what stops a primary expression. -/
theorem readSteps_text : ∀ (steps : List Step), WritableSteps steps → ∀ {rest : List Char},
    Stops .primary rest → readSteps (stepsText steps ++ rest) = (steps, rest)
  | [], _, rest, hrest => by
      have hhead := hrest.no_step
      rw [stepsText, List.nil_append]
      unfold readSteps
      split
      · exact absurd rfl (hhead _ rfl).1
      · exact absurd rfl (hhead _ rfl).2
      · rfl
  | .key name :: steps, h, rest, hrest => by
      have hname := stepName?_append h.1 (stepsText_head steps hrest.no_word)
      have hlen : (stepsText steps ++ rest).length ≤
          (name.toList ++ (stepsText steps ++ rest)).length := by
        simp
      rw [stepsText, List.cons_append, List.append_assoc, readSteps, hname]
      simp only [hlen, if_true, readSteps_text steps h.2 hrest]
  | .index e :: steps, h, rest, hrest => by
      have hread := (readable e h.1).read_disjunction h.1
        (Stops.closer _ (by decide) (stepsText steps ++ rest) : Stops _ (']' :: _))
      have hclosing := closing?_self (by decide : isSpace ']' = false) (stepsText steps ++ rest)
      have hlen : (stepsText steps ++ rest).length ≤
          (text e ++ ']' :: (stepsText steps ++ rest)).length := by
        simp only [List.length_append, List.length_cons]
        omega
      rw [stepsText, List.cons_append, List.append_assoc, List.cons_append, readSteps,
        skip_text h.1, hread]
      simp only [hclosing, hlen, if_true, readSteps_text steps h.2 hrest]
end

/-- The text of an expression is read as the same tree. -/
theorem parse_of_toList {e : Expr} {s : String} (h : Writable e) (hs : s.toList = text e) :
    parse s = .ok e := by
  have hread := (readable e h).read_disjunction h (Stops.nil _)
  have hskip := skip_text h []
  rw [List.append_nil] at hread hskip
  rw [parse, hs, hskip, hread]
  rfl

/-- A printed expression is read back as the same tree. -/
theorem parse_print (e : Expr) (h : e.Writable) : parse e.print = .ok e := by
  have hread := (readable e h).read_disjunction h (Stops.nil _)
  have hskip := skip_text h []
  rw [List.append_nil] at hread hskip
  rw [parse, print, String.toList_ofList, hskip, hread]
  rfl

/-- A chain to the right, a comparison of a call with an array, and a negation over both. -/
def nested : Expr :=
  .binary .and
    (.not (.binary .or (.path "doc" [.key "up"]) (.binary .and (.path "a" []) (.path "b" []))))
    (.binary .notIn
      (.binary .sub (.literal (.num (.int 1)))
        (.binary .sub (.neg (.path "x" [.index (.literal (.str "a\"b\\"))]))
          (.call .length [.path "LENGTH" [], .literal .null])))
      (.array [.literal (.bool true), .binary .mul (.path "y" []) (.literal (.num (.int 2)))]))

/-- The nested tree is printed with the parentheses it needs, and read back. -/
theorem parse_print_nested :
    nested.print = "NOT (doc.up OR a AND b) AND " ++
        "1 - (-x[\"a\\\"b\\\\\"] - LENGTH(LENGTH, null)) NOT IN [true, y * 2]" ∧
      parse nested.print = .ok nested := by
  have hwritable : nested.Writable := by
    simp only [nested, Writable, WritableItems, WritableSteps, WritableLiteral, IsVariable,
      IsStepName]
    decide
  exact ⟨by decide, parse_print nested hwritable⟩

end SeriesQuery.Expr
