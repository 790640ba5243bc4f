import SeriesQuery.Cli
import SeriesQuery.Proofs.Query.Namespaces
import SeriesQuery.Proofs.Results
import SeriesQuery.Proofs.Text.Runs

/-!
# Variables on the command line

An argument assigns the text after its first equals sign to the trimmed name before it. A name that
is assigned once has this text as its value, and one that is assigned several times has all its
texts, in their order and whatever other names come in between (`parseVars_exact`). So where the
name is declared to have several values, the choices are its texts.
-/

namespace SeriesQuery.Cli

/-- An argument assigns a text to a name. -/
def Assigns (arg : String) (pair : String × String) : Prop :=
  ∃ before after, arg.toList = before ++ '=' :: after ∧ '=' ∉ before ∧
    pair = (String.ofList (Text.trimChars before), String.ofList after)

/-- The texts that are assigned to a name, in order. -/
def textsOf (pairs : List (String × String)) (name : String) : List String :=
  (pairs.filter fun pair => pair.1 = name).map Prod.snd

/-- The variable for some texts: none, one text, or an array of them. -/
def held : List String → Option ScopedVariable
  | [] => none
  | [text] => some ⟨none, .str text⟩
  | texts => some ⟨none, .arr (texts.map .str)⟩

/-- The declared variables that some assignments give values to, with the decoded texts. -/
def choicesOf (declared : List String) (pairs : List (String × String)) :
    List (String × List Json) :=
  (declared.filter fun name => !Scope.isHidden name && decide (name ∈ pairs.map Prod.fst)).map
    fun name => (name, (textsOf pairs name).map fun text => .str (Text.decodeEntities text))

section Arguments

variable {arg : String}

/-- An argument with an equals sign assigns a text to a name. -/
theorem exists_assigns (h : '=' ∈ arg.toList) : ∃ pair, Assigns arg pair := by
  obtain ⟨before, after, harg, hbefore⟩ := List.eq_append_cons_of_mem h
  exact ⟨_, before, after, harg, hbefore, rfl⟩

/-- Arguments that all have an equals sign assign something each. -/
theorem exists_pairs {args : List String} (h : ∀ arg ∈ args, '=' ∈ arg.toList) :
    ∃ pairs, List.Forall₂ Assigns args pairs := by
  induction args with
  | nil => exact ⟨[], .nil⟩
  | cons arg args ih =>
      obtain ⟨pair, hpair⟩ := exists_assigns (h arg List.mem_cons_self)
      obtain ⟨pairs, hpairs⟩ := ih fun arg harg => h arg (List.mem_cons_of_mem _ harg)
      exact ⟨pair :: pairs, .cons hpair hpairs⟩

/-- No character of a text without equals signs is one. -/
theorem all_ne {s : List Char} (h : '=' ∉ s) : s.all (· != '=') = true := by
  rw [List.all_eq_true]
  intro c hc
  rw [bne_iff_ne]
  rintro rfl
  exact h hc

/-- What an argument assigns is what it is split into. -/
theorem splitVariable_of_assigns {pair : String × String} (h : Assigns arg pair) :
    splitVariable arg = .ok pair := by
  obtain ⟨before, after, harg, hbefore, rfl⟩ := h
  have hmark : ∀ c ∈ ('=' :: after).head?, (c != '=') = false := by simp
  have hname := (Text.takeWhile_run (all_ne hbefore) hmark).1
  unfold splitVariable
  simp only [harg, hname, List.drop_left]

/-- An argument without an equals sign is no assignment. -/
theorem splitVariable_of_not_mem (h : '=' ∉ arg.toList) :
    splitVariable arg = .error (.badVariable arg) := by
  have hname : arg.toList.takeWhile (· != '=') = arg.toList :=
    List.takeWhile_eq_self_iff.2 (List.all_eq_true.1 (all_ne h))
  unfold splitVariable
  simp only [hname, List.drop_length]

/-- Only an argument with an equals sign is split. -/
theorem mem_of_splitVariable {pair : String × String} (h : splitVariable arg = .ok pair) :
    '=' ∈ arg.toList := by
  by_contra hmem
  rw [splitVariable_of_not_mem hmem] at h
  cases h

end Arguments

section Runs

/-- A name with one assignment more. -/
theorem textsOf_concat (pairs : List (String × String)) (name : String) (pair : String × String) :
    textsOf (pairs ++ [pair]) name =
      if pair.1 = name then textsOf pairs name ++ [pair.2] else textsOf pairs name := by
  by_cases h : pair.1 = name <;> simp [textsOf, h]

/-- A name has texts exactly if some assignment is to it. -/
theorem textsOf_ne_nil_iff {pairs : List (String × String)} {name : String} :
    textsOf pairs name ≠ [] ↔ name ∈ pairs.map Prod.fst := by
  simp [textsOf, List.filter_eq_nil_iff]

/-- A variable with one text more is the variable for all its texts. -/
theorem held_concat (texts : List String) (text : String) :
    held (texts ++ [text]) = some (addValue (held texts) text) := by
  match texts with
  | [] => rfl
  | [first] => rfl
  | first :: second :: more =>
      show some (ScopedVariable.mk none (.arr ((first :: second :: more ++ [text]).map .str))) = _
      rw [List.map_append]
      rfl

/-- There is a variable exactly if there are texts. -/
theorem isSome_held_iff {texts : List String} : (held texts).isSome ↔ texts ≠ [] := by
  rcases texts with _ | ⟨first, _ | ⟨second, more⟩⟩ <;> simp [held]

/-- Several texts are held as an array. -/
theorem held_of_two_le {texts : List String} (h : 2 ≤ texts.length) :
    held texts = some ⟨none, .arr (texts.map .str)⟩ := by
  match texts, h with
  | _ :: _ :: _, _ => rfl

/-- The values of a variable with texts are its texts, with references resolved. -/
theorem elements_held {texts : List String} (h : texts ≠ []) :
    Scope.elements (((held texts).map ScopedVariable.value).getD .null) =
      texts.map fun text => .str (Text.decodeEntities text) := by
  match texts, h with
  | [_], _ => rfl
  | first :: second :: more, _ =>
      show Scope.decodeItems ((first :: second :: more).map .str) = _
      rw [Scope.decodeItems_eq, List.map_map]
      rfl

/-- The variables with an argument more. -/
def addArgument (known : ScopedVars) (arg : String) : Except CliError ScopedVars := do
  let (name, value) ← splitVariable arg
  return Dict.insert known name (addValue (Dict.get? known name) value)

/-- The arguments are taken one after the other. -/
theorem parseVars_eq (args : List String) : parseVars args = args.foldlM addArgument [] := rfl

/-- The variables that assignments leave, one after the other. -/
def assign (known : ScopedVars) (pairs : List (String × String)) : ScopedVars :=
  pairs.foldl (fun known pair =>
    Dict.insert known pair.1 (addValue (Dict.get? known pair.1) pair.2)) known

/-- Arguments that all assign something leave what their assignments do. -/
theorem foldlM_of_assigns {args : List String} {pairs : List (String × String)}
    (h : List.Forall₂ Assigns args pairs) (known : ScopedVars) :
    args.foldlM addArgument known = .ok (assign known pairs) := by
  induction h generalizing known with
  | nil => rfl
  | cons harg _ ih =>
      rw [List.foldlM_cons, addArgument, splitVariable_of_assigns harg]
      exact ih _

/-- The first argument that is no assignment is the error. -/
theorem parseVars_error {before after : List String} {arg : String}
    (hbefore : ∀ a ∈ before, '=' ∈ a.toList) (harg : '=' ∉ arg.toList) :
    parseVars (before ++ arg :: after) = .error (.badVariable arg) := by
  obtain ⟨pairs, hpairs⟩ := exists_pairs hbefore
  have hrest : (arg :: after).foldlM addArgument (assign [] pairs) = .error (.badVariable arg) := by
    rw [List.foldlM_cons, addArgument, splitVariable_of_not_mem harg]
    rfl
  rw [parseVars_eq, List.foldlM_append, foldlM_of_assigns hpairs]
  exact hrest

/-- Arguments that are all taken have equals signs. -/
theorem mem_of_foldlM {args : List String} {known vars : ScopedVars}
    (h : args.foldlM addArgument known = .ok vars) : ∀ arg ∈ args, '=' ∈ arg.toList := by
  induction args generalizing known with
  | nil => exact List.forall_mem_nil _
  | cons arg args ih =>
      rw [List.foldlM_cons] at h
      obtain ⟨next, hnext, hrest⟩ := exists_of_bind_ok h
      obtain ⟨pair, hpair, -⟩ := exists_of_bind_ok hnext
      exact List.forall_mem_cons.2 ⟨mem_of_splitVariable hpair, ih hrest⟩

/-- Assignments keep the names in order. -/
theorem ordered_assign {known : ScopedVars} (h : Dict.Ordered known)
    (pairs : List (String × String)) : Dict.Ordered (assign known pairs) := by
  induction pairs generalizing known with
  | nil => exact h
  | cons pair pairs ih => exact ih (Dict.ordered_insert h _ _)

/-- Where each name has the variable for its earlier texts, assignments leave it with that for the
later ones too. -/
theorem get?_assign {known : ScopedVars} {earlier : List (String × String)}
    (h : ∀ name, Dict.get? known name = held (textsOf earlier name))
    (pairs : List (String × String)) (name : String) :
    Dict.get? (assign known pairs) name = held (textsOf (earlier ++ pairs) name) := by
  induction pairs generalizing known earlier with
  | nil => rw [List.append_nil, ← h]; rfl
  | cons pair pairs ih =>
      have hstep : ∀ name, Dict.get? (Dict.insert known pair.1
          (addValue (Dict.get? known pair.1) pair.2)) name =
            held (textsOf (earlier ++ [pair]) name) := by
        intro name
        rw [Dict.get?_insert, textsOf_concat]
        by_cases hname : pair.1 = name
        · rw [if_pos hname, if_pos hname, held_concat, h, hname]
        · rw [if_neg hname, if_neg hname, h]
      -- the assignment that is done is now the last of the earlier ones
      have hrest := ih hstep
      rw [List.append_assoc] at hrest
      exact hrest

/-- What is declared to have several values has its texts as the choices. -/
theorem present_eq_choicesOf {vars : ScopedVars} {pairs : List (String × String)}
    (h : ∀ name, Dict.get? vars name = held (textsOf pairs name)) (declared : List String) :
    Scope.present declared vars = choicesOf declared pairs := by
  have hvaried : Scope.varied declared vars =
      declared.filter fun name => !Scope.isHidden name && decide (name ∈ pairs.map Prod.fst) := by
    refine List.filter_congr fun name _ => ?_
    rw [Bool.eq_iff_iff, decide_eq_true_iff, Scope.mem_visible_iff, ← Option.isSome_iff_exists, h,
      isSome_held_iff, textsOf_ne_nil_iff, Bool.and_eq_true, Bool.not_eq_true', decide_eq_true_iff]
  rw [Scope.present_eq, hvaried, choicesOf]
  refine List.map_congr_left fun name hname => ?_
  have hassigned : name ∈ pairs.map Prod.fst :=
    of_decide_eq_true (Bool.and_eq_true_iff.1 (List.mem_filter.1 hname).2).2
  rw [Scope.valueOf, h, elements_held (textsOf_ne_nil_iff.2 hassigned)]

/-- The arguments are variables exactly if each has an equals sign, and the first one without is the
error. The names of the variables are the trimmed texts before the first equals signs. A name with
one text has it as its value, and one with several has the array of them in their order, wherever
the assignments to other names are. Where a name is declared to have several values, its texts, with
references resolved and in their order, are what is chosen from. -/
theorem parseVars_exact (args : List String) :
    ((∃ vars, parseVars args = .ok vars) ↔ ∀ arg ∈ args, '=' ∈ arg.toList) ∧
    (∀ before arg after, args = before ++ arg :: after → (∀ a ∈ before, '=' ∈ a.toList) →
      '=' ∉ arg.toList → parseVars args = .error (.badVariable arg)) ∧
    ∀ vars, parseVars args = .ok vars → ∃ pairs, List.Forall₂ Assigns args pairs ∧
      Dict.Ordered vars ∧
      (∀ name, name ∈ Dict.keys vars ↔ name ∈ pairs.map Prod.fst) ∧
      (∀ name text, textsOf pairs name = [text] →
        Dict.get? vars name = some ⟨none, .str text⟩) ∧
      (∀ name, 2 ≤ (textsOf pairs name).length →
        Dict.get? vars name = some ⟨none, .arr ((textsOf pairs name).map .str)⟩) ∧
      ∀ declared, Scope.present declared vars = choicesOf declared pairs ∧
        (Scope.expand declared vars).map Scope.combinations =
          (Product.mk ((choicesOf declared pairs).map Prod.snd)).toList.map fun choices =>
            choices.map fun texts =>
              Dict.ofList (((choicesOf declared pairs).map Prod.fst).zip texts) := by
  refine ⟨⟨?_, ?_⟩, ?_, ?_⟩
  · rintro ⟨vars, hvars⟩
    exact mem_of_foldlM hvars
  · intro h
    obtain ⟨pairs, hpairs⟩ := exists_pairs h
    exact ⟨_, foldlM_of_assigns hpairs []⟩
  · rintro before arg after rfl hbefore harg
    exact parseVars_error hbefore harg
  · intro vars hvars
    obtain ⟨pairs, hpairs⟩ := exists_pairs (mem_of_foldlM hvars)
    obtain rfl : assign [] pairs = vars :=
      Except.ok.inj ((foldlM_of_assigns hpairs []).symm.trans hvars)
    have hempty : ∀ name, Dict.get? ([] : ScopedVars) name = held (textsOf [] name) :=
      fun _ => rfl
    have hget := get?_assign hempty pairs
    rw [List.nil_append] at hget
    have hnil : Dict.Ordered ([] : ScopedVars) := List.Pairwise.nil
    refine ⟨pairs, hpairs, ordered_assign hnil pairs, ?_, ?_, ?_, ?_⟩
    · intro name
      rw [← Dict.isSome_get?_iff, hget, isSome_held_iff, textsOf_ne_nil_iff]
    · intro name text htext
      rw [hget, htext]
      rfl
    · intro name hlength
      rw [hget, held_of_two_le hlength]
    · intro declared
      have hpresent := present_eq_choicesOf hget declared
      refine ⟨hpresent, ?_⟩
      simp only [Scope.expand, hpresent]
      cases (Product.mk ((choicesOf declared pairs).map Prod.snd)).toList <;> rfl

/-- Blanks around a name do not make it another one, and other names may come in between. -/
theorem parseVars_exact_blanks :
    ∃ vars, parseVars ["host=web", "env=prod", " host =a&lt;b"] = .ok vars ∧
      Dict.get? vars "env" = some ⟨none, .str "prod"⟩ ∧
      Dict.get? vars "host" = some ⟨none, .arr [.str "web", .str "a&lt;b"]⟩ ∧
      Scope.present ["host", "zone"] vars = [("host", [.str "web", .str "a<b"])] := by
  obtain ⟨hok, -, hexact⟩ := parseVars_exact ["host=web", "env=prod", " host =a&lt;b"]
  obtain ⟨vars, hvars⟩ := hok.2 (by decide)
  obtain ⟨pairs, hpairs, -, -, hone, hseveral, hdeclared⟩ := hexact vars hvars
  obtain _ | ⟨hfirst, _ | ⟨hsecond, _ | ⟨hthird, _ | _⟩⟩⟩ := hpairs
  obtain rfl := Except.ok.inj ((splitVariable_of_assigns hfirst).symm.trans
    (rfl : _ = Except.ok ("host", "web")))
  obtain rfl := Except.ok.inj ((splitVariable_of_assigns hsecond).symm.trans
    (rfl : _ = Except.ok ("env", "prod")))
  obtain rfl := Except.ok.inj ((splitVariable_of_assigns hthird).symm.trans
    (rfl : _ = Except.ok ("host", "a&lt;b")))
  have hweb : Text.decodeEntities "web" = "web" := by
    simp [Text.decodeEntities, Text.decodeEntityChars]
  have hlast : Text.decodeEntities "a&lt;b" = "a<b" := by
    simp [Text.decodeEntities, Text.decodeEntityChars, Text.entity?, Text.namedEntities,
      Text.after?]
  have hchoices : choicesOf ["host", "zone"]
      [("host", "web"), ("env", "prod"), ("host", "a&lt;b")] =
      [("host", [.str (Text.decodeEntities "web"), .str (Text.decodeEntities "a&lt;b")])] := rfl
  rw [hweb, hlast] at hchoices
  exact ⟨vars, hvars, hone "env" "prod" (by decide), hseveral "host" (by decide),
    (hdeclared ["host", "zone"]).1.trans hchoices⟩

end Runs

end SeriesQuery.Cli
