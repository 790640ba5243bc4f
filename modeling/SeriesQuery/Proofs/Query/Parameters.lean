import SeriesQuery.Proofs.Dict
import SeriesQuery.Query.Plan

/-!
# The text of a query and its variables

The database refuses a query whose text names a parameter that is not bound, and one that binds a
parameter its text does not name. `BoundQuery.parameters` are the parameters that occur in a text:
names after an at sign, and after two of them for a collection. `toQuery_parameters` says that they
are what a plan binds, whatever its rendered texts are, as long as these bring no at sign. Plans
that differ in shape and aggregation share their text up to the value of a document.
-/

namespace SeriesQuery

namespace Text

/-- The lines of a text. -/
def lines (s : String) : List String := (splitChars '\n' s.toList).map String.ofList

/-- What a separator divides is split apart. -/
theorem splitChars_append (sep : Char) (s t : List Char) :
    splitChars sep (s ++ sep :: t) = splitChars sep s ++ splitChars sep t := by
  induction s with
  | nil => simp [splitChars]
  | cons c s ih =>
      rw [List.cons_append, splitChars, splitChars, ih]
      by_cases hc : c = sep
      · rw [if_pos hc, if_pos hc, List.cons_append]
      · rw [if_neg hc, if_neg hc]
        cases hs : splitChars sep s with
        | nil =>
            cases s with
            | nil => simp [splitChars] at hs
            | cons d s =>
                rw [splitChars] at hs
                split at hs
                · simp at hs
                · split at hs <;> simp at hs
        | cons first more => rfl

/-- A text without separators is one run. -/
theorem splitChars_of_not_mem {sep : Char} {s : List Char} (h : sep ∉ s) :
    splitChars sep s = [s] := by
  induction s with
  | nil => rfl
  | cons c s ih =>
      obtain ⟨hc, hs⟩ : _ ≠ c ∧ _ ∉ s := by simpa only [List.mem_cons, not_or] using h
      rw [splitChars, if_neg (Ne.symm hc), ih hs]

/-- The characters of two texts or more with line ends between them. -/
theorem toList_joinWith_cons (s t : String) (more : List String) :
    (joinWith "\n" (s :: t :: more)).toList =
      s.toList ++ '\n' :: (joinWith "\n" (t :: more)).toList := by
  rw [joinWith, String.toList_append, String.toList_append, List.append_assoc]
  · rfl
  · simp

/-- Joining two lists of texts joins what they are joined to. -/
theorem joinWith_append (sep s t : String) (first more : List String) :
    joinWith sep (s :: first ++ t :: more) =
      joinWith sep (s :: first) ++ sep ++ joinWith sep (t :: more) := by
  induction first generalizing s with
  | nil => rfl
  | cons r first ih =>
      have hjoined (l : List String) : joinWith sep (s :: r :: l) = s ++ sep ++ joinWith sep (r :: l) :=
        rfl
      rw [List.cons_append, List.cons_append, hjoined, hjoined, ← List.cons_append, ih]
      simp only [String.append_assoc]

/-- Texts that are joined by line ends have their own lines. -/
theorem lines_joinWith (s : String) (more : List String) :
    lines (joinWith "\n" (s :: more)) = (s :: more).flatMap lines := by
  induction more generalizing s with
  | nil => simp [joinWith]
  | cons t more ih =>
      have hrest := ih t
      unfold lines at hrest ⊢
      rw [toList_joinWith_cons, splitChars_append, List.map_append, hrest]
      rfl

/-- A text without line ends is one line. -/
theorem lines_of_not_mem {s : String} (h : '\n' ∉ s.toList) : lines s = [s] := by
  rw [lines, splitChars_of_not_mem h, List.map_singleton, String.ofList_toList]

end Text

namespace BoundQuery

/-- Whether a character may stand in the name of a parameter. -/
def isNameChar (c : Char) : Bool := c.isAlphanum || c == '_'

/-- The name at the start of a text, with a mark in front, if there is one. -/
def nameAt (mark s : List Char) : List String :=
  match s.takeWhile isNameChar with
  | [] => []
  | name => [String.ofList (mark ++ name)]

/-- The names after an at sign, in order. After two at signs the second one belongs to the name. -/
def marked : List Char → List String
  | '@' :: '@' :: rest => nameAt ['@'] rest ++ marked rest
  | '@' :: rest => nameAt [] rest ++ marked rest
  | _ :: rest => marked rest
  | [] => []

/-- The parameters that occur in a text. -/
def parameters (text : String) : List String := marked text.toList

/-- A text without at signs has no parameters. -/
theorem parameters_of_not_mem {text : String} (h : '@' ∉ text.toList) : parameters text = [] := by
  unfold parameters
  generalize text.toList = s at h ⊢
  induction s with
  | nil => rfl
  | cons c s ih =>
      obtain ⟨hc, hs⟩ : _ ≠ c ∧ _ ∉ s := by simpa only [List.mem_cons, not_or] using h
      rw [marked, ih hs]
      · rintro _ rfl
        exact absurd rfl hc
      · rintro rfl
        exact absurd rfl hc

/-- A name ends where a line does. -/
theorem nameAt_line (mark s t : List Char) : nameAt mark (s ++ '\n' :: t) = nameAt mark s := by
  have htake : (s ++ '\n' :: t).takeWhile isNameChar = s.takeWhile isNameChar := by
    induction s with
    | nil => rfl
    | cons c s ih => rw [List.cons_append, List.takeWhile_cons, List.takeWhile_cons, ih]
  rw [nameAt, nameAt, htake]

/-- No name goes over a line end. -/
theorem marked_line (s t : List Char) : marked (s ++ '\n' :: t) = marked s ++ marked t := by
  fun_induction marked s with
  | case1 rest ih =>
      rw [List.cons_append, List.cons_append, marked, nameAt_line, ih, List.append_assoc]
  | case2 rest hrest ih =>
      rw [List.cons_append, marked, nameAt_line, ih, List.append_assoc]
      intro more hmore
      cases rest with
      | nil => cases hmore
      | cons c rest =>
          obtain rfl : c = '@' := (List.cons.inj hmore).1
          exact hrest rest rfl
  | case3 c rest hpair hsingle ih =>
      rw [List.cons_append, marked, ih]
      · exact fun _ hc _ => hsingle hc
      · exact fun hc => hsingle hc
  | case4 => rfl

/-- The parameters of lines are those of each line. -/
theorem parameters_joinWith (lines : List String) :
    parameters (Text.joinWith "\n" lines) = lines.flatMap parameters := by
  induction lines with
  | nil => rfl
  | cons s more ih =>
      cases more with
      | nil => simp [Text.joinWith]
      | cons t more =>
          unfold parameters at ih ⊢
          rw [Text.toList_joinWith_cons, marked_line, ih]
          rfl

end BoundQuery

/-- A constant has the characters of its text, and besides them quotation marks and backslashes. -/
theorem mem_quoteConstant {s : String} {c : Char} (h : c ∈ (quoteConstant s).toList) :
    c = '"' ∨ c = '\\' ∨ c ∈ s.toList := by
  rw [quoteConstant, String.toList_ofList] at h
  rcases List.mem_cons.1 h with hmark | h
  · exact .inl hmark
  rcases List.mem_append.1 h with hinner | hmark
  · obtain ⟨d, hd, hc⟩ := List.mem_flatMap.1 hinner
    split at hc
    · rcases List.mem_cons.1 hc with hescape | hc
      · exact .inr (.inl hescape)
      · exact .inr (.inr (List.mem_singleton.1 hc ▸ hd))
    · exact .inr (.inr (List.mem_singleton.1 hc ▸ hd))
  · exact .inl (List.mem_singleton.1 hmark)

/-- The expression of a source has no characters that its content does not have, apart from those
that name an attribute. -/
theorem Source.not_mem_toExpression {s : Source String} {c : Char} (hc : c ∉ "doc[\"\\]".toList)
    (h : c ∉ s.content.toList) : c ∉ s.toExpression.toList := by
  cases s with
  | expression text => exact h
  | field name =>
      intro hmem
      rw [toExpression, String.toList_append, String.toList_append] at hmem
      rcases List.mem_append.1 hmem with hmem | hmem
      · rcases List.mem_append.1 hmem with hfront | hmem
        · exact hc (List.mem_of_mem_take (i := 4) hfront)
        · rcases mem_quoteConstant hmem with rfl | rfl | hname
          · exact hc (by decide)
          · exact hc (by decide)
          · exact h hname
      · exact hc (List.mem_of_mem_drop (i := 6) hmem)

namespace Plan

/-- The lines of a query up to that of the value of a document, whatever is made of the values. -/
def sharedLines (date value : Source String) (filter : Option String) : List String :=
  ["FOR doc IN @@collection", "  LET d = " ++ date.toExpression,
    "  FILTER d >= @start AND d < @end"] ++
    (filter.map ("  FILTER " ++ ·)).toList ++ ["  LET v = " ++ value.toExpression]

/-- The lines of a query as they are written. -/
def queryLines (p : Plan) : List String :=
  sharedLines p.date p.value p.filter ++ p.resultLines

/-- Whether a line filters documents. -/
def isFilterLine (line : String) : Bool := "  FILTER ".toList.isPrefixOf line.toList

/-- Two plans that differ in shape and aggregation only. -/
def SameSelection (p p' : Plan) : Prop :=
  p' = { p with shape := p'.shape, aggregation := p'.aggregation }

/-- None of the rendered texts of a plan has a character. -/
structure Lacks (p : Plan) (c : Char) : Prop where
  date : c ∉ p.date.content.toList
  value : c ∉ p.value.content.toList
  filter : ∀ f ∈ p.filter, c ∉ f.toList

/-- The lines that select are those that do not depend on shape and aggregation. -/
theorem selectionLines_eq (p : Plan) :
    p.selectionLines = sharedLines p.date p.value p.filter := by
  have hindent (word text : String) : "  " ++ (word ++ text) = ("  " ++ word) ++ text :=
    String.append_assoc.symm
  rw [selectionLines, dateSnippet, valueSnippet, Source.snippet, Source.snippet, hindent, hindent]
  cases hp : p.filter with
  | none => rfl
  | some f =>
      rw [filterSnippet, hp, hindent]
      rfl

/-- The lines of a grouped query after those that select. -/
theorem resultLines_grouped {p : Plan} (h : p.isGrouped = true) :
    p.resultLines =
      ["  COLLECT date = FLOOR(d / @interval) * @interval",
        "  AGGREGATE value = " ++ p.aggregation.name ++ "(v)", "  SORT date",
        "  RETURN [value, date]"] := by
  have hgrouping : p.aggregation.isGrouping = true := (Bool.and_eq_true_iff.1 h).2
  have hfunction : p.aggregation.function? = some p.aggregation.name := by
    rw [Aggregation.function?, if_pos hgrouping]
  rw [resultLines, h, hfunction]

/-- The lines of a query without groups after those that select. -/
theorem resultLines_ungrouped {p : Plan} (h : p.isGrouped = false) :
    p.resultLines = ["  SORT d", "  RETURN [d, v]"] ∨
      p.resultLines = ["  SORT d", "  RETURN [v, d]"] := by
  rw [resultLines, h]
  cases p.shape with
  | table => exact .inl rfl
  | series => exact .inr rfl

/-- There are lines after those that select. -/
theorem exists_resultLines (p : Plan) : ∃ line more, p.resultLines = line :: more := by
  cases h : p.isGrouped with
  | true => exact ⟨_, _, resultLines_grouped h⟩
  | false => rcases resultLines_ungrouped h with hlines | hlines <;> exact ⟨_, _, hlines⟩

/-- The text of a query are its lines. -/
theorem text_toQuery (p : Plan) : p.toQuery.text = Text.joinWith "\n" p.queryLines := by
  rw [queryLines, ← selectionLines_eq]
  rfl

/-- The text of a query begins with the lines that select. -/
theorem text_selection (p : Plan) :
    p.toQuery.text = Text.joinWith "\n" (sharedLines p.date p.value p.filter) ++ "\n" ++
      Text.joinWith "\n" p.resultLines := by
  obtain ⟨line, more, hlines⟩ := exists_resultLines p
  rw [text_toQuery, queryLines, hlines]
  exact Text.joinWith_append _ _ _ _ _

section Parameters

open BoundQuery

variable {p : Plan}

/-- The lines that select name the collection and the bounds of the range. -/
theorem parameters_sharedLines (h : p.Lacks '@') :
    (sharedLines p.date p.value p.filter).flatMap parameters = ["@collection", "start", "end"] := by
  have hcollection : parameters "FOR doc IN @@collection" = ["@collection"] := rfl
  have hrange : parameters "  FILTER d >= @start AND d < @end" = ["start", "end"] := rfl
  have hdate : parameters ("  LET d = " ++ p.date.toExpression) = [] :=
    parameters_of_not_mem (by simpa using Source.not_mem_toExpression (by decide) h.date)
  have hvalue : parameters ("  LET v = " ++ p.value.toExpression) = [] :=
    parameters_of_not_mem (by simpa using Source.not_mem_toExpression (by decide) h.value)
  have hfilter : (p.filter.map ("  FILTER " ++ ·)).toList.flatMap parameters = [] := by
    rw [List.flatMap_eq_nil_iff]
    intro line hline
    obtain ⟨f, hf, rfl⟩ := Option.map_eq_some_iff.1 (Option.mem_toList.1 hline)
    exact parameters_of_not_mem (by simpa using h.filter f hf)
  rw [sharedLines, List.flatMap_append, List.flatMap_append, hfilter]
  simp only [List.flatMap_cons, List.flatMap_nil, hcollection, hdate, hrange, hvalue]
  rfl

/-- The lines that make the rows name the width of a bucket, where there are buckets. -/
theorem parameters_resultLines (p : Plan) :
    p.resultLines.flatMap parameters = if p.isGrouped then ["interval", "interval"] else [] := by
  cases h : p.isGrouped with
  | true =>
      have hcollect : parameters "  COLLECT date = FLOOR(d / @interval) * @interval" =
        ["interval", "interval"] := rfl
      have haggregate : parameters ("  AGGREGATE value = " ++ p.aggregation.name ++ "(v)") = [] := by
        refine parameters_of_not_mem ?_
        cases p.aggregation <;> decide
      rw [resultLines_grouped h]
      simp only [List.flatMap_cons, List.flatMap_nil, hcollect, haggregate]
      rfl
  | false => rcases resultLines_ungrouped h with hlines | hlines <;> rw [hlines] <;> rfl

/-- A name is bound exactly if it is that of the collection, of a bound of the range, or, where there
are buckets, of their width. -/
theorem mem_keys_bindVars {name : String} :
    name ∈ Dict.keys p.toQuery.bindVars ↔
      name ∈ ["@collection", "start", "end"] ∨ p.isGrouped = true ∧ name = "interval" := by
  show name ∈ Dict.keys p.bindVars ↔ _
  rw [bindVars, Dict.mem_keys_ofList, List.map_append, List.mem_append]
  cases p.isGrouped <;> simp

/-- The parameters of a query are those that are bound. -/
theorem mem_parameters_iff (h : p.Lacks '@') {name : String} :
    name ∈ parameters p.toQuery.text ↔ name ∈ Dict.keys p.toQuery.bindVars := by
  rw [text_toQuery, parameters_joinWith, queryLines, List.flatMap_append, parameters_sharedLines h,
    parameters_resultLines, mem_keys_bindVars, List.mem_append]
  cases p.isGrouped <;> simp

/-- The width of a bucket is bound exactly where there are buckets. -/
theorem get?_interval (p : Plan) :
    Dict.get? p.toQuery.bindVars "interval" =
      if p.isGrouped then some (.int64 p.interval) else none := by
  show Dict.get? p.bindVars "interval" = _
  rw [bindVars]
  cases p.isGrouped <;> rfl

end Parameters

/-- The lines of a query that filter are that of the range and, exactly if the plan has a filter,
one with it. -/
theorem filter_queryLines (p : Plan) :
    p.queryLines.filter isFilterLine =
      "  FILTER d >= @start AND d < @end" :: (p.filter.map ("  FILTER " ++ ·)).toList := by
  have hresult : p.resultLines.filter isFilterLine = [] := by
    cases h : p.isGrouped with
    | true =>
        rw [resultLines_grouped h]
        simp [isFilterLine]
    | false => rcases resultLines_ungrouped h with hlines | hlines <;> rw [hlines] <;> rfl
  rw [queryLines, List.filter_append, hresult, List.append_nil, sharedLines]
  cases p.filter <;> simp [isFilterLine]

/-- No line of a query goes over a line end where none of the rendered texts does. -/
theorem not_mem_queryLines {p : Plan} (h : p.Lacks '\n') :
    ∀ line ∈ p.queryLines, '\n' ∉ line.toList := by
  intro line hline
  rcases List.mem_append.1 hline with hshared | hresult
  · rcases List.mem_append.1 hshared with hshared | hvalue
    · rcases List.mem_append.1 hshared with hfixed | hfilter
      · simp only [List.mem_cons, List.not_mem_nil, or_false] at hfixed
        rcases hfixed with rfl | rfl | rfl
        · decide
        · simpa using Source.not_mem_toExpression (by decide) h.date
        · decide
      · obtain ⟨f, hf, rfl⟩ := Option.map_eq_some_iff.1 (Option.mem_toList.1 hfilter)
        simpa using h.filter f hf
    · obtain rfl := List.mem_singleton.1 hvalue
      simpa using Source.not_mem_toExpression (by decide) h.value
  · cases hgrouped : p.isGrouped with
    | true =>
        rw [resultLines_grouped hgrouped] at hresult
        simp only [List.mem_cons, List.not_mem_nil, or_false] at hresult
        rcases hresult with rfl | rfl | rfl | rfl
        · decide
        · cases p.aggregation <;> decide
        · decide
        · decide
    | false =>
        rcases resultLines_ungrouped hgrouped with hlines | hlines <;> rw [hlines] at hresult <;>
          simp only [List.mem_cons, List.not_mem_nil, or_false] at hresult <;>
          rcases hresult with rfl | rfl <;> decide

/-- The lines of the text of a query are the lines that were written, where none of the rendered
texts has a line end. -/
theorem lines_toQuery {p : Plan} (h : p.Lacks '\n') : Text.lines p.toQuery.text = p.queryLines := by
  have hlines : p.queryLines.flatMap Text.lines = p.queryLines.flatMap fun line => [line] :=
    List.flatMap_congr fun line hline => Text.lines_of_not_mem (not_mem_queryLines h line hline)
  have hjoined : Text.lines p.toQuery.text = p.queryLines.flatMap Text.lines := by
    rw [text_toQuery]
    exact Text.lines_joinWith _ _
  rw [hjoined, hlines, List.flatMap_singleton']

/-- The parameters that occur in the text of a plan without at signs in its rendered texts are those
that it binds, and the width of a bucket is bound exactly where rows are grouped. Besides the range
exactly a plan with a filter has a line that filters. Plans that differ in shape and aggregation
share their text up to the line of the value of a document. -/
theorem toQuery_parameters (p : Plan) :
    (p.Lacks '@' → ∀ name,
      name ∈ BoundQuery.parameters p.toQuery.text ↔ name ∈ Dict.keys p.toQuery.bindVars) ∧
    Dict.get? p.toQuery.bindVars "interval" =
      (if p.isGrouped then some (.int64 p.interval) else none) ∧
    p.toQuery.text = Text.joinWith "\n" p.queryLines ∧
    p.queryLines.filter isFilterLine =
      "  FILTER d >= @start AND d < @end" :: (p.filter.map ("  FILTER " ++ ·)).toList ∧
    (p.Lacks '\n' → Text.lines p.toQuery.text = p.queryLines) ∧
    ∀ p', p.SameSelection p' →
      let shared := Text.joinWith "\n" (sharedLines p.date p.value p.filter)
      (∃ rest, p.toQuery.text = shared ++ "\n" ++ rest) ∧
      ∃ rest, p'.toQuery.text = shared ++ "\n" ++ rest := by
  refine ⟨fun h name => mem_parameters_iff h, get?_interval p, text_toQuery p, filter_queryLines p,
    lines_toQuery, ?_⟩
  intro p' hsame
  refine ⟨⟨_, text_selection p⟩, Text.joinWith "\n" p'.resultLines, ?_⟩
  have hshared : sharedLines p'.date p'.value p'.filter = sharedLines p.date p.value p.filter := by
    rw [hsame]
  rw [← hshared]
  exact text_selection p'

/-- A plan that groups what a filter leaves. -/
def filteredPlan : Plan where
  target := "load"
  collection := "load"
  filter := some "doc.host == 'a'"
  date := .field "time"
  value := .expression "doc.value * 2"
  aggregation := .sum
  interval := 1000
  range := ⟨0, 60000⟩
  shape := .series
  dateName := "time"
  valueName := "value"
  displayName := none

/-- The parameters of a grouped query and of its table. -/
theorem toQuery_parameters_filtered :
    filteredPlan.Lacks '@' ∧ filteredPlan.Lacks '\n' ∧
    (∀ name, name ∈ BoundQuery.parameters filteredPlan.toQuery.text ↔
      name ∈ ["@collection", "end", "interval", "start"]) ∧
    Text.lines filteredPlan.toQuery.text = filteredPlan.queryLines ∧
    filteredPlan.SameSelection { filteredPlan with shape := .table } := by
  have hat : filteredPlan.Lacks '@' := by constructor <;> decide
  have hline : filteredPlan.Lacks '\n' := by constructor <;> decide
  obtain ⟨hparameters, -, -, -, hlines, -⟩ := toQuery_parameters filteredPlan
  have hkeys : Dict.keys filteredPlan.toQuery.bindVars =
      ["@collection", "end", "interval", "start"] := by decide
  rw [hkeys] at hparameters
  exact ⟨hat, hline, hparameters hat, hlines hline, rfl⟩

end Plan

end SeriesQuery
