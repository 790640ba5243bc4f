import SeriesQuery.Expr.Eval
import SeriesQuery.Proofs.Expr.Operands
import SeriesQuery.Proofs.Expr.RoundTrip
import SeriesQuery.Proofs.Results

/-!
# Operators without an operand

An expression that ends in an operator between two operands is not read, and neither is one that
ends in the sign `!`. The word `NOT` is different: where no operand follows it, it is a variable
itself, and so is each of the words that stand between operands in the place of an operand.
-/

namespace SeriesQuery

open Token

namespace Operator

/-- An operator is read at the end of a text. -/
theorem operator?_last (op : Operator) : operator? op.level op.sign = some (op, []) := by
  cases op <;> decide

/-- A tighter level does not take an operator at the end of a text for one of its own. -/
theorem operator?_last_tighter (op : Operator) {level : Level}
    (h : level.rank < op.level.rank) : operator? level op.sign = none := by
  revert h
  cases op <;> cases level <;> decide

/-- The text of an operator is not skipped. -/
theorem skip_sign (op : Operator) (s : List Char) : skip (op.sign ++ s) = op.sign ++ s := by
  obtain ⟨c, cs, hsign, hspace, -⟩ := sign_head op
  rw [hsign]
  exact skip_cons hspace

/-- A blank in front of an operator is passed over. -/
theorem skip_blank_sign (op : Operator) : skip (' ' :: op.sign) = op.sign := by
  rw [skip_blank]
  simpa using op.skip_sign []

end Operator

/-- A looser operator at the end of a text stops a tighter expression. -/
theorem Token.Stops.last {level : Level} (op : Operator) (h : level.rank < op.level.rank) :
    Stops level (' ' :: op.sign) := by
  refine ⟨fun m hm => ?_, head_blank _, by simp, ?_⟩
  · rw [op.skip_blank_sign]
    exact op.operator?_last_tighter (Nat.lt_of_le_of_lt hm h)
  · obtain ⟨c, cs, hsign, -, hparen⟩ := sign_head op
    rw [opening?, op.skip_blank_sign, hsign]
    simp [Ne.symm hparen]

namespace Expr

section Readers

/-- Nothing is read at the end of a text. -/
theorem read_nil (level : Level) : read level [] = .error [] := by
  have hprimary : read .primary [] = .error [] := by rw [read]
  exact read_error (Nat.zero_le _) hprimary (fun _ => by decide) fun _ => rfl

/-- A chain that ends in an operator is not read. -/
theorem chain_last (op : Operator) (operand : Level) (left : Expr) :
    chain op.level operand left (' ' :: op.sign) = .error [] := by
  have hnil : skip ([] : List Char) = [] := rfl
  have hshorter : ([] : List Char).length < (' ' :: op.sign).length := Nat.zero_lt_succ _
  rw [chain, op.skip_blank_sign, op.operator?_last]
  simp only [hnil, hshorter, ↓reduceIte, read_nil]

/-- A comparison that ends in its operator is not read. -/
theorem read_comparison_last {op : Operator} (hop : op.level = .comparison) {s : List Char}
    {left : Expr} (h : read .sum (s ++ ' ' :: op.sign) = .ok (left, ' ' :: op.sign)) :
    read .comparison (s ++ ' ' :: op.sign) = .error [] := by
  have hnil : skip ([] : List Char) = [] := rfl
  have hshorter : ([] : List Char).length < (s ++ ' ' :: op.sign).length := by
    rw [List.length_append]
    exact Nat.lt_add_left _ (Nat.zero_lt_succ _)
  rw [read, h]
  simp only [op.skip_blank_sign, ← hop, op.operator?_last]
  simp only [hnil, hshorter, ↓reduceIte, read_nil]

/-- A chain goes on with its last operand as that is read. -/
theorem chain_last_operand (op : Operator) {operand : Level} {left : Expr} {s : List Char}
    (hs : skip s = s) (hne : s ≠ []) (hend : ∀ e rest, read operand s = .ok (e, rest) → rest = []) :
    chain op.level operand left (' ' :: (op.sign ++ ' ' :: s)) =
      (read operand s).map fun p => (.binary op left p.1, p.2) := by
  cases hread : read operand s with
  | ok found =>
      obtain ⟨right, rest⟩ := found
      obtain rfl := hend right rest hread
      rw [chain_operator hs hread (List.length_pos_of_ne_nil hne)]
      exact chain_stop (by cases op <;> decide)
  | error rest =>
      have hshorter : s.length < (' ' :: (op.sign ++ ' ' :: s)).length := by
        simp only [List.length_cons, List.length_append]
        omega
      rw [chain, skip_blank, op.skip_sign, operator?_sign]
      simp only [skip_blank, hs, hshorter, hread, ↓reduceIte]
      rfl

/-- A sign of a negation that no operand follows is read as something else. -/
theorem read_negation_bare {s : List Char}
    (h : ∀ after, negation? s = some after → ∃ rest, read .negation after = .error rest) :
    read .negation s = read .comparison s := by
  cases hsign : negation? s with
  | none => exact read_negation_plain hsign
  | some after =>
      obtain ⟨rest, hafter⟩ := h after hsign
      rw [read_negation_after hsign, hafter]

end Readers

section Dangling

variable {e : Expr}

/-- No sign of a negation stands in front of an expression in the place of a tighter one. -/
theorem negation?_textAt (h : Writable e) {level : Level} (hlevel : level.rank < Level.negation.rank)
    {rest : List Char} (hrest : ∀ c ∈ rest.head?, isWordChar c = false) :
    negation? (textAt level e ++ rest) = none := by
  obtain ⟨hfits, htext⟩ | ⟨-, htext⟩ := textAt_cases level e
  · rw [htext]
    exact negation?_text h (Nat.lt_of_le_of_lt hfits hlevel) hrest
  · rw [htext]
    exact negation?_mark (by decide) (by decide) _

/-- An expression with an operator after it is not read at the level of the operator. -/
theorem read_last (h : Writable e) (op : Operator) :
    read op.level (textAt op.leftLevel e ++ ' ' :: op.sign) = .error [] := by
  by_cases hchains : op.level.chains = true
  · have hrank := Level.rank_tighter (level_operator_ne op)
    have hstops : Stops op.level.tighter (' ' :: op.sign) := Stops.last op (by omega)
    rw [leftLevel_of_chains hchains, (readable e h).chain_textAt h hchains hstops]
    exact chain_last op _ e
  · have hcomparison := level_eq_comparison (by simpa using hchains)
    have hleft : op.leftLevel = .sum := by rw [Operator.leftLevel, hcomparison]
    have hstops : Stops .sum (' ' :: op.sign) := Stops.last op (by rw [hcomparison]; decide)
    rw [hleft, hcomparison]
    exact read_comparison_last hcomparison ((readable e h).read_textAt h hstops)

/-- An expression that ends in an operator between two operands is not read. -/
theorem parse_last (h : Writable e) (op : Operator) :
    parse (String.ofList (textAt op.leftLevel e ++ ' ' :: op.sign)) =
      .error (.unreadable (String.ofList (textAt op.leftLevel e ++ ' ' :: op.sign)) "") := by
  have hread : read .disjunction (textAt op.leftLevel e ++ ' ' :: op.sign) = .error [] := by
    refine read_error (m := op.level) (by cases op <;> decide) (read_last h op) (fun hlevel => ?_)
      fun hprimary => absurd hprimary (level_operator_ne op)
    exact negation?_textAt h (leftLevel_rank_lt op hlevel) (head_blank _)
  rw [parse, String.toList_ofList, skip_textAt h, hread]

/-- An expression with one more operand of its last conjunction. -/
def andLast : Expr → Expr → Expr
  | binary .or left right, operand => .binary .or left (.binary .and right operand)
  | e, operand => .binary .and e operand

/-- A further operand of a conjunction. -/
def andText (s : List Char) : List Char := ' ' :: (Operator.and.sign ++ ' ' :: s)

/-- An expression is a disjunction, or stands as it is in the place of a conjunction. -/
theorem disjunction_or (e : Expr) :
    (∃ left right, e = .binary .or left right) ∨
      (textAt .conjunction e = e.text ∧ ∀ operand, e.andLast operand = .binary .and e operand) := by
  by_cases hor : ∃ left right, e = .binary .or left right
  · exact .inl hor
  · have hlevel : e.level.rank ≤ Level.conjunction.rank := by
      cases e with
      | binary op left right =>
          cases op with
          | or => exact absurd ⟨left, right, rfl⟩ hor
          | _ => exact Nat.le_of_ble_eq_true rfl
      | _ => exact Nat.le_of_ble_eq_true rfl
    refine .inr ⟨?_, fun operand => ?_⟩
    · rw [textAt, bracketed, if_pos hlevel]
    · unfold andLast
      split
      · next left right => exact absurd ⟨left, right, rfl⟩ hor
      · rfl

section Operand

variable {s : List Char} (hs : skip s = s) (hne : s ≠ [])
  (hend : ∀ operand rest, read .negation s = .ok (operand, rest) → rest = [])

include hs hne hend

/-- A conjunction is read with the further operand, as far as that is read. -/
theorem read_conjunction_and (h : Writable e) :
    read .conjunction (textAt .conjunction e ++ andText s) =
      (read .negation s).map fun p => (.binary .and e p.1, p.2) := by
  have hstops : Stops Level.conjunction.tighter (andText s) := Stops.operator .and (by decide) s
  rw [(readable e h).chain_textAt h rfl hstops]
  exact chain_last_operand .and hs hne hend

/-- An expression is read with the further operand of its last conjunction, as far as that is
read. -/
theorem read_disjunction_and (h : Writable e) :
    read .disjunction (text e ++ andText s) =
      (read .negation s).map fun p => (e.andLast p.1, p.2) := by
  rcases disjunction_or e with ⟨left, right, rfl⟩ | ⟨htext, hlast⟩
  · -- the conjunction is the right operand of the last disjunction
    obtain ⟨hleft, hright⟩ := h
    have hconjunction := read_conjunction_and hs hne hend hright
    have hskip := skip_textAt hright .conjunction (andText s)
    have hlength := length_textAt_append hright .conjunction (andText s)
    have hstops : Stops Level.disjunction.tighter
        (' ' :: (Operator.or.sign ++ ' ' :: (textAt .conjunction right ++ andText s))) :=
      Stops.operator .or (by decide) _
    rw [text_binary]
    show read .disjunction (textAt .disjunction left ++
      ' ' :: (Operator.or.sign ++ ' ' :: (textAt .conjunction right ++ andText s))) = _
    rw [(readable left hleft).chain_textAt hleft rfl hstops]
    show chain Operator.or.level .conjunction left _ = _
    rw [chain_last_operand .or hskip (List.ne_nil_of_length_pos (Nat.zero_lt_of_lt hlength)),
      hconjunction]
    · cases read .negation s <;> rfl
    · intro operand rest hread
      rw [hconjunction] at hread
      obtain ⟨⟨found, left'⟩, hfound, heq⟩ := exists_of_map_ok hread
      cases heq
      exact hend found _ hfound
  · have hconjunction := read_conjunction_and hs hne hend h
    rw [htext] at hconjunction
    cases hread : read .negation s with
    | ok found =>
        obtain ⟨operand, rest⟩ := found
        obtain rfl := hend operand rest hread
        rw [hread] at hconjunction
        have hlength : ([] : List Char).length < (text e ++ andText s).length := by
          rw [List.length_append]
          exact Nat.lt_add_left _ (Nat.zero_lt_succ _)
        rw [read_looser (m := .conjunction) (by decide) hconjunction hlength (Stops.nil _)
          (fun hrank => absurd hrank (by decide)) (fun hlevel => by cases hlevel)]
        show _ = Except.ok (e.andLast operand, [])
        rw [hlast]
    | error rest =>
        rw [hread] at hconjunction
        exact read_error (m := .conjunction) (by decide) hconjunction
          (fun hrank => absurd hrank (by decide)) fun hlevel => by cases hlevel

/-- A text that goes on with a further operand is read exactly if the operand is. -/
theorem parse_and (h : Writable e) :
    parse (String.ofList (text e ++ andText s)) =
      match read .negation s with
      | .ok (operand, _) => .ok (e.andLast operand)
      | .error rest =>
        .error (.unreadable (String.ofList (text e ++ andText s)) (String.ofList rest)) := by
  rw [parse, String.toList_ofList, skip_text h, read_disjunction_and hs hne hend h]
  cases hread : read .negation s with
  | ok found =>
      obtain ⟨operand, rest⟩ := found
      obtain rfl := hend operand rest hread
      rfl
  | error rest => rfl

end Operand

end Dangling

section Words

variable {word : List Char} (h : IsReserved word)

include h

/-- A word that stands between operands is a word. -/
theorem IsReserved.word? : Token.word? word = some (word, []) := by
  obtain ⟨hne, hstart⟩ := h.letters
  cases word with
  | nil => exact absurd rfl hne
  | cons c cs =>
      have hrest : ∀ d ∈ cs, isWordChar d = true := fun d hd =>
        isWordChar_of_start (hstart d (List.mem_cons_of_mem c hd))
      rw [Token.word?, if_pos (hstart c List.mem_cons_self), List.takeWhile_eq_self_iff.2 hrest,
        List.dropWhile_eq_nil_iff.2 hrest]

/-- A word that stands between operands is no constant. -/
theorem IsReserved.not_constant : ¬IsConstant word := by
  obtain ⟨keyword, hkeyword, hword⟩ := h
  have hdistinct : "TRUE" ∉ operatorWords ∧ "FALSE" ∉ operatorWords ∧ "NULL" ∉ operatorWords := by
    decide
  rintro (hconstant | hconstant | hconstant) <;>
    rw [keyword_unique hword hconstant] at hkeyword
  · exact hdistinct.1 hkeyword
  · exact hdistinct.2.1 hkeyword
  · exact hdistinct.2.2 hkeyword

/-- In the place of an operand, with nothing after it, a word that stands between operands is a
variable. -/
theorem IsReserved.read_negation :
    read .negation word = .ok (.path (String.ofList word) [], []) := by
  have hword := h.word?
  have hprimary : read .primary word = .ok (.path (String.ofList word) [], []) := by
    have hsteps : readSteps [] = ([], []) := by simp [readSteps]
    rw [read_variable hword h.not_constant rfl, hsteps]
  have hminus : minus? word = none := by
    obtain ⟨c, cs, rfl, hc, -⟩ := word?_self hword
    unfold minus?
    split
    · next heq =>
        obtain ⟨rfl, -⟩ := List.cons.inj heq
        exact absurd hc (by decide)
    · rfl
  have hlength : ([] : List Char).length < word.length := by
    obtain ⟨c, cs, rfl, -⟩ := word?_self hword
    exact Nat.zero_lt_succ _
  have hbare : ∀ after, negation? word = some after →
      ∃ rest, read .negation after = .error rest := by
    intro after hafter
    have hnil : ∀ d ∈ ([] : List Char).head?, isWordChar d = false := by simp
    have hkeyword := keyword?_append "NOT" hword hnil
    obtain ⟨c, cs, rfl, hc, -⟩ := word?_self hword
    have hne : '!' ≠ c := by
      rintro rfl
      exact absurd hc (by decide)
    rw [List.append_nil] at hkeyword
    rw [negation?, keywordOr?, hkeyword] at hafter
    -- the word is `NOT`, and nothing comes after it
    have hnil : after = [] := by
      split at hafter <;> simp_all [Text.after?, skip]
    rw [hnil]
    exact ⟨[], read_nil .negation⟩
  rw [read_negation_bare hbare]
  exact read_looser (m := .primary) (by decide) hprimary hlength (Stops.nil _)
    (fun _ hrank => absurd hrank (by decide)) fun _ => hminus

omit h in
/-- A variable that is not bound is null. -/
theorem IsReserved.eval {word : String} (h : IsReserved word.toList) (doc : Json) :
    eval [("doc", doc)] (.path word []) = .null := by
  have hdoc : "doc" ≠ word := by
    rintro rfl
    unfold IsReserved at h
    revert h
    decide
  show (Dict.get? [("doc", doc)] word).getD .null = .null
  rw [Dict.get?, if_neg hdoc]
  rfl

end Words

/-- The sign of a negation alone is not read. -/
theorem read_bang : read .negation ['!'] = .error ['!'] := by
  have hprimary : read .primary ['!'] = .error ['!'] := by
    rw [read]
    simp [Text.isAsciiDigit, word?, show isWordStart '!' = false by decide]
  have hbare : ∀ after, negation? ['!'] = some after →
      ∃ rest, read .negation after = .error rest := by
    intro after hafter
    obtain rfl : [] = after := Option.some.inj hafter
    exact ⟨[], read_nil .negation⟩
  have hminus : read .minus ['!'] = .error ['!'] := by rw [read_minus_plain rfl, hprimary]
  have hproduct : read .product ['!'] = .error ['!'] := by rw [read, hminus]
  have hsum : read .sum ['!'] = .error ['!'] := by rw [read, hproduct]
  rw [read_negation_bare hbare, read, hsum]

/-- A printed expression with a further operand. -/
theorem print_and (e : Expr) (operand : String) :
    e.print ++ " AND " ++ operand = String.ofList (text e ++ andText operand.toList) := by
  refine String.toList_inj.1 ?_
  rw [String.toList_append, String.toList_append, print, String.toList_ofList,
    String.toList_ofList, String.toList_ofList, List.append_assoc]
  rfl

/-- An expression that goes on with the sign of a negation alone is not read. -/
theorem parse_and_bang {e : Expr} (h : Writable e) :
    parse (e.print ++ " AND " ++ "!") = .error (.unreadable (e.print ++ " AND " ++ "!") "!") := by
  have hend : ∀ operand rest, read .negation ['!'] = .ok (operand, rest) → rest = [] := by
    intro operand rest hread
    rw [read_bang] at hread
    cases hread
  have hparse := parse_and (s := ['!']) rfl (List.cons_ne_nil _ _) hend h
  rw [read_bang] at hparse
  rw [print_and]
  exact hparse

/-- An expression that goes on with a word that stands between operands has it for a variable. -/
theorem parse_and_word {e : Expr} (h : Writable e) {word : String}
    (hword : IsReserved word.toList) :
    parse (e.print ++ " AND " ++ word) = .ok (e.andLast (.path word [])) := by
  have hend : ∀ operand rest, read .negation word.toList = .ok (operand, rest) → rest = [] := by
    intro operand rest hread
    rw [hword.read_negation] at hread
    cases hread
    rfl
  obtain ⟨c, cs, hcons, hstart, -⟩ := word?_self hword.word?
  have hskip : skip word.toList = word.toList := by
    rw [hcons]
    exact skip_cons (isSpace_of_isWordChar (isWordChar_of_start hstart))
  have hne : word.toList ≠ [] := by
    rw [hcons]
    exact List.cons_ne_nil c cs
  have hparse := parse_and hskip hne hend h
  rw [hword.read_negation, String.ofList_toList] at hparse
  rw [print_and]
  exact hparse

/-- Every variable of an expression that is read stands in its text where an operand may come, and
is no constant; none may come after an operand. So where the words that stand between operands come
after operands only, none of them is a variable. An expression that ends in an operator between two
operands, or in the sign of a negation, is not read; but one that goes on with `AND` and any of these
words is read with this word as a variable, which has no value. -/
theorem reserved_words (source : String) (e : Expr) :
    (parse source = .ok e →
      (∀ root ∈ e.roots, StandsIn source.toList root) ∧
      ((∀ word, IsReserved word.toList → ¬StandsIn source.toList word) →
        ∀ root ∈ e.roots, ¬IsReserved root.toList)) ∧
    (∀ before, EndsOperand before → ¬Due before) ∧
    (Writable e →
      (∀ op : Operator, parse (String.ofList (textAt op.leftLevel e ++ ' ' :: op.sign)) =
        .error (.unreadable (String.ofList (textAt op.leftLevel e ++ ' ' :: op.sign)) "")) ∧
      parse (e.print ++ " AND " ++ "!") = .error (.unreadable (e.print ++ " AND " ++ "!") "!") ∧
      ∀ word : String, IsReserved word.toList →
        parse (e.print ++ " AND " ++ word) = .ok (e.andLast (.path word [])) ∧
        ∀ doc, eval [("doc", doc)] (.path word []) = .null) := by
  refine ⟨fun h => ?_, fun before h => h.not_due, fun h => ?_⟩
  · have hplaced := placed_of_parse h
    exact ⟨hplaced, fun hnone root hroot hreserved => hnone root hreserved (hplaced root hroot)⟩
  · exact ⟨parse_last h, parse_and_bang h, fun word hword => ⟨parse_and_word h hword, hword.eval⟩⟩

/-- An attribute of a document. -/
def docA : Expr := .path "doc" [.key "a"]

/-- The attribute of a document has a text. -/
theorem writable_docA : Writable docA := by
  simp only [docA, Writable, WritableSteps, IsVariable, IsStepName]
  decide

/-- The word `NOT` in capitals is one of the words that stand between operands. -/
theorem isReserved_not : IsReserved "NOT".toList := by
  unfold IsReserved
  decide

/-- The words and signs after an attribute: what dangles is an error, but for the word `NOT`, which
stands where an operand may come. -/
theorem reserved_words_docA :
    parse "doc.a AND" = .error (.unreadable "doc.a AND" "") ∧
    parse "doc.a AND !" = .error (.unreadable "doc.a AND !" "!") ∧
    parse "doc.a AND NOT" = .ok (.binary .and docA (.path "NOT" [])) ∧
    StandsIn "doc.a AND NOT".toList "NOT" := by
  obtain ⟨-, -, hdocA⟩ := reserved_words "doc.a" docA
  obtain ⟨hlast, hbang, hword⟩ := hdocA writable_docA
  have hnot : parse "doc.a AND NOT" = .ok (.binary .and docA (.path "NOT" [])) :=
    (hword "NOT" isReserved_not).1
  have hstands := ((reserved_words "doc.a AND NOT" (.binary .and docA (.path "NOT" []))).1 hnot).1
  exact ⟨hlast .and, hbang, hnot, hstands "NOT" (by decide)⟩

/-- A negation without an operand is a variable. -/
theorem dangling_not_read :
    parse "doc.a AND NOT" = .ok (.binary .and (.path "doc" [.key "a"]) (.path "NOT" [])) ∧
    IsReserved "NOT".toList :=
  ⟨parse_and_word writable_docA isReserved_not, isReserved_not⟩

end Expr

end SeriesQuery
