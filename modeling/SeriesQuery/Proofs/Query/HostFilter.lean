import SeriesQuery.Proofs.Expr.RoundTrip
import SeriesQuery.Proofs.Query.Compile
import SeriesQuery.Proofs.Query.Namespaces
import SeriesQuery.Proofs.Template.Scan
import SeriesQuery.Proofs.Text.Trim
import SeriesQuery.Store.Memory

/-!
# A filter that compares with a variable

A configured filter may compare an attribute with a variable of the dashboard between single
quotation marks. The value of the variable is put there as it is, so what the filter says depends on
how the value reads inside a quoted text. `filter_selects_host` says which documents such a
filter selects: a value without quotation marks and backslashes selects the documents that have it,
and one with backslashes only selects those that have it with its escapes resolved. The value of
`filter_changed` ends the quoted text early and selects every document.
-/

namespace SeriesQuery

open Token

namespace Expr

/-- The comparison of the attribute `host` with a text. -/
def hostIs (w : String) : Expr :=
  .binary .eq (.path "doc" [.key "host"]) (.literal (.str w))

/-- The text of a comparison of the attribute with what stands in `cs`. -/
def hostSource (cs : List Char) : List Char :=
  ['d', 'o', 'c', '.', 'h', 'o', 's', 't'] ++ ' ' :: (Operator.eq.sign ++ ' ' :: cs)

/-- A document has a text as its host. -/
def HasHost (doc : Json) (w : String) : Prop :=
  ∃ fields, doc = .obj fields ∧ Dict.get? fields "host" = some (.str w)

/-- An attribute of a document is a text only if it is there. -/
theorem access_eq_str (doc : Json) (w : String) :
    doc.access (.str "host") = .str w ↔ HasHost doc w := by
  have hindex : Text.parseBelow? UInt64.size ['h', 'o', 's', 't'] = none := by decide
  cases doc with
  | obj fields =>
      rw [Json.access]
      cases h : Dict.get? fields "host" <;> simp [HasHost, h]
  | arr items => simp [Json.access, HasHost, hindex]
  | null | bool _ | num _ | str _ => simp [Json.access, HasHost]

/-- A value equals a text only if it is that text. -/
theorem equal_str (v : Json) (w : String) : v.equal (.str w) = true ↔ v = .str w := by
  cases v <;> simp [Json.equal, Json.same]

/-- The comparison holds for the documents that have the text as their host. -/
theorem truthy_hostIs (w : String) (doc : Json) :
    ((hostIs w).eval [("doc", doc)]).truthy = true ↔ HasHost doc w := by
  rw [← access_eq_str, ← equal_str]
  simp [hostIs, eval, evalSteps, Dict.get?, Operator.apply, Json.truthy]

/-- The attribute has a text. -/
theorem writable_host : Writable (.path "doc" [.key "host"]) := by
  simp only [Writable, WritableSteps, IsVariable, IsStepName]
  decide

/-- The attribute is read up to the sign of the comparison. -/
theorem read_host (s : List Char) :
    read .sum (hostSource s) =
      .ok (.path "doc" [.key "host"], ' ' :: (Operator.eq.sign ++ ' ' :: s)) :=
  (readable _ writable_host).read_text writable_host (by decide)
    (Stops.operator .eq (by decide) s)

/-- No sign of a negation stands in front of the attribute. -/
theorem negation?_host (s : List Char) : negation? (hostSource s) = none :=
  negation?_text writable_host (by decide) (head_blank _)

/-- A quoted text up to the end is the right side of the comparison. -/
theorem parse_host {cs u : List Char} (h : quotedRest? '\'' cs = some (u, [])) :
    parse (String.ofList (hostSource ('\'' :: cs))) = .ok (hostIs (String.ofList u)) := by
  have hquoted := read_quoted (.inl rfl) h
  have hright : read .sum ('\'' :: cs) = .ok (.literal (.str (String.ofList u)), []) :=
    read_looser (Nat.zero_le _) hquoted (by simp) (Stops.nil _)
      (fun _ _ => negation?_mark (by decide) (by decide) cs) (fun _ => rfl)
  have hcomparison : read .comparison (hostSource ('\'' :: cs)) =
      .ok (hostIs (String.ofList u), []) :=
    read_comparison_operator rfl (read_host _) (skip_cons (by decide)) hright
  have hread : read .disjunction (hostSource ('\'' :: cs)) =
      .ok (hostIs (String.ofList u), []) :=
    read_looser (by decide) hcomparison (Nat.succ_pos _) (Stops.nil _)
      (fun _ _ => negation?_host _) (fun hlevel => by cases hlevel)
  have hskip : skip (hostSource ('\'' :: cs)) = hostSource ('\'' :: cs) := skip_cons (by decide)
  rw [parse, String.toList_ofList, hskip, hread]
  rfl

/-- Without a closing mark there is no right side of the comparison. -/
theorem parse_host_open {cs : List Char} (h : quotedRest? '\'' cs = none) :
    ∃ e, parse (String.ofList (hostSource ('\'' :: cs))) = .error e := by
  have hprimary : read .primary ('\'' :: cs) = .error ('\'' :: cs) := by
    rw [read]
    simp [quoted?, h, Text.isAsciiDigit]
  have hright : read .sum ('\'' :: cs) = .error ('\'' :: cs) :=
    read_error (by decide) hprimary (fun _ => negation?_mark (by decide) (by decide) cs)
      (fun _ => rfl)
  have hcomparison : read .comparison (hostSource ('\'' :: cs)) = .error ('\'' :: cs) := by
    have h := read_comparison_right rfl (read_host ('\'' :: cs)) (skip_cons (by decide))
    rw [hright] at h
    exact h
  have hread : read .disjunction (hostSource ('\'' :: cs)) = .error ('\'' :: cs) :=
    read_error (by decide) hcomparison (fun _ => negation?_host _) (fun hlevel => by cases hlevel)
  have hskip : skip (hostSource ('\'' :: cs)) = hostSource ('\'' :: cs) := skip_cons (by decide)
  rw [parse, String.toList_ofList, hskip, hread]
  exact ⟨_, rfl⟩

end Expr

namespace Text

/-- A text without ampersands has no references. -/
theorem decodeEntities_eq_self {s : String} (h : '&' ∉ s.toList) : decodeEntities s = s := by
  have hchars : ∀ cs : List Char, '&' ∉ cs → decodeEntityChars cs = cs := by
    intro cs
    induction cs with
    | nil =>
        intro _
        rw [decodeEntityChars]
    | cons c cs ih =>
        intro hcs
        rw [List.mem_cons, not_or] at hcs
        rw [decodeEntityChars, if_neg (Ne.symm hcs.1), ih hcs.2]
  rw [decodeEntities, hchars _ h, String.ofList_toList]

end Text

/-- The source of a filter that compares the attribute `host` with a variable of this name. -/
def hostFilter : String := "doc.host == '\x7b\x7bgrafana.host\x7d\x7d'"

/-- The filter as a template: the variable stands between two quotation marks. -/
def hostTemplate : Template where
  source := hostFilter
  pieces := [.literal (Expr.hostSource ['\'']), .slot ⟨"grafana", ["host"]⟩, .literal ['\'']]

/-- The filter is read as its template. -/
theorem parse_hostFilter : Template.parse hostFilter = .ok hostTemplate := by
  have hmark : Template.readPieces ['\''] = ([.literal ['\'']], []) :=
    Template.readPieces_literal (by decide) (by decide) Template.readPieces_nil
  have hslot : Template.readPieces
      (['\x7b', '\x7b'] ++ "grafana.host".toList ++ ['\x7d', '\x7d', '\'']) =
        ([.slot ⟨"grafana", ["host"]⟩, .literal ['\'']], []) :=
    Template.readPieces_slot (by decide) (by decide) hmark
  have hpieces : Template.readPieces hostFilter.toList = (hostTemplate.pieces, []) :=
    Template.readPieces_literal (by decide) (by decide) hslot
  rw [Template.parse, hpieces]
  rfl

/-- With the variable bound to a text, this text stands between the quotation marks. -/
theorem render_hostTemplate {d : Definition} {data : Option Fields} {dashboard : Fields}
    {w : String} (h : Dict.get? dashboard "host" = some (.str w)) :
    hostTemplate.render (layerBindings d data dashboard) =
      String.ofList (Expr.hostSource ('\'' :: (w.toList ++ ['\'']))) := by
  have hroot : Dict.get? (layerBindings d data dashboard) "grafana" = some (.obj dashboard) := by
    rw [layerBindings, Dict.get?_insert, if_pos rfl]
  have hlookup : Path.lookup? ⟨"grafana", ["host"]⟩ (layerBindings d data dashboard) =
      some (.str w) := by
    simp [Path.lookup?, hroot, Path.descend?, h]
  apply String.toList_injective
  simp [Template.render, hostTemplate, Template.renderPiece, hlookup, Json.display, String.join,
    Expr.hostSource]

/-- The filter of a plan whose target compares the attribute with the variable, bound to a text. -/
theorem planOne_hostFilter {params : QueryParams} {d : Definition} {q : TargetQuery}
    {dashboard : Fields} {p : PlannedTarget} {w : String} (hfilter : d.filter = some hostTemplate)
    (hhost : Dict.get? dashboard "host" = some (.str w))
    (h : Runner.planOne params d q dashboard = .ok p) :
    p.plan.filter = some (String.ofList (Expr.hostSource ('\'' :: (w.toList ++ ['\''])))) := by
  have htrim : Text.trim (String.ofList (Expr.hostSource ('\'' :: (w.toList ++ ['\''])))) =
      String.ofList (Expr.hostSource ('\'' :: (w.toList ++ ['\'']))) := by
    have hbare : Text.Bare (Expr.hostSource ('\'' :: (w.toList ++ ['\'']))) := by
      have hmark : Expr.hostSource ('\'' :: (w.toList ++ ['\''])) =
          Expr.hostSource ('\'' :: w.toList) ++ ['\''] := by simp [Expr.hostSource]
      refine ⟨?_, ?_⟩
      · rintro _ ⟨⟩
        decide
      · rw [hmark, List.getLast?_concat]
        rintro _ ⟨⟩
        decide
    rw [Text.trim, String.toList_ofList, Text.trimChars_eq_self_iff.2 hbare]
  have hne : String.ofList (Expr.hostSource ('\'' :: (w.toList ++ ['\'']))) ≠ "" := by
    intro hempty
    have := congrArg String.toList hempty
    rw [String.toList_ofList] at this
    cases this
  rw [compile_filter (planOne_compile h), hfilter, Option.map_some, render_hostTemplate hhost,
    Text.nonBlank?, Option.map_some, htrim, Option.filter_some, if_pos (by simpa using hne)]

/-- The filter of a plan is an expression that holds for the documents that have a text as their
host. -/
def SelectsHost (p : Plan) (w : String) : Prop :=
  ∃ source e, p.filter = some source ∧ Expr.parse source = .ok e ∧
    ∀ doc, (e.eval [("doc", doc)]).truthy = true ↔ Expr.HasHost doc w

/-- A filter that compares the attribute `host` with a variable says what the value of the variable
reads as between quotation marks. Without quotation marks and backslashes that is the value itself;
where escapes are resolved it is another text, and a value that leaves the quoted text open makes
no expression. -/
theorem filter_selects_host (r : Runner) (params : QueryParams) {t : Template} {d : Definition}
    {q : TargetQuery} {v : ScopedVariable} {value : String} {dashboard : Fields}
    {p : PlannedTarget} (hkeys : (params.scopedVars.map Prod.fst).Nodup)
    (hvar : Dict.get? params.scopedVars "host" = some v) (hvalue : v.value = .str value)
    (hsingle : "host" ∉ r.multiValued) (ht : Template.parse hostFilter = .ok t)
    (hfilter : d.filter = some t) {scope : Scope}
    (hscope : Scope.expand r.multiValued params.scopedVars = .ok scope)
    (hdashboard : dashboard ∈ scope.namespaces)
    (hplan : Runner.planOne params d q dashboard = .ok p) :
    ('\'' ∉ (Text.decodeEntities value).toList → '\\' ∉ (Text.decodeEntities value).toList →
      SelectsHost p.plan (Text.decodeEntities value)) ∧
    (∀ u, quotedRest? '\'' ((Text.decodeEntities value).toList ++ ['\'']) = some (u, []) →
      SelectsHost p.plan (String.ofList u) ∧
        (String.ofList u = Text.decodeEntities value ↔
          '\\' ∉ (Text.decodeEntities value).toList)) ∧
    (quotedRest? '\'' ((Text.decodeEntities value).toList ++ ['\'']) = none →
      ∃ source e, p.plan.filter = some source ∧ Expr.parse source = .error e) := by
  obtain rfl : hostTemplate = t := by
    rw [parse_hostFilter] at ht
    exact Except.ok.inj ht
  have hhost : Dict.get? dashboard "host" = some (.str (Text.decodeEntities value)) := by
    rw [Scope.get?_namespaces hkeys hvar (by decide) hsingle hscope dashboard hdashboard, hvalue]
    rfl
  have hsource := planOne_hostFilter hfilter hhost hplan
  generalize Text.decodeEntities value = w at hsource ⊢
  have hselects : ∀ u, quotedRest? '\'' (w.toList ++ ['\'']) = some (u, []) →
      SelectsHost p.plan (String.ofList u) := by
    intro u hu
    exact ⟨_, _, hsource, Expr.parse_host hu, Expr.truthy_hostIs (String.ofList u)⟩
  refine ⟨fun hquote hslash => ?_, fun u hu => ⟨hselects u hu, ?_⟩, fun hopen => ?_⟩
  · have hverbatim : quotedRest? '\'' (w.toList ++ ['\'']) = some (w.toList, []) := by
      refine quotedRest?_verbatim (by decide) (fun c hc => ⟨?_, ?_⟩) []
      · rintro rfl
        exact hslash hc
      · rintro rfl
        exact hquote hc
    have h := hselects w.toList hverbatim
    rwa [String.ofList_toList] at h
  · obtain ⟨used, hused, hle, hshort, hsame⟩ := quotedRest?_used hu
    obtain rfl : w.toList = used := List.append_cancel_right hused
    constructor
    · intro heq hslash
      have hlen := hshort hslash
      rw [← heq, String.toList_ofList] at hlen
      exact Nat.lt_irrefl _ hlen
    · intro hslash
      rw [hsame hslash, String.ofList_toList]
  · obtain ⟨e, he⟩ := Expr.parse_host_open hopen
    exact ⟨_, e, hsource, he⟩

/-- A template without slots. -/
def plainTemplate (s : String) : Template := ⟨s, [.literal s.toList]⟩

/-- A target with such a filter. -/
def hostDefinition : Definition where
  name := "web"
  collection := "metrics"
  aggregation := .average
  filter := some hostTemplate
  date := .field (plainTemplate "time")
  value := .field (plainTemplate "latency")
  dateName := plainTemplate "time"
  valueName := plainTemplate "latency"
  displayName := none
  view := []
  data := none

/-- A query for the target with a value of the variable. -/
def hostParams (value : String) : QueryParams where
  range := ⟨0, 1000⟩
  interval := 1000
  targets := [⟨"web", .series, none⟩]
  scopedVars := [("host", ⟨none, .str value⟩)]

/-- A runner without variables that have several values. -/
def hostRunner : Runner where
  catalog := Catalog.empty.push hostDefinition rfl
  multiValued := []
  hideEmpty := false
  logQuery := false
  searchQueries := []

/-- The plan of the target can be made for every value. -/
theorem planOne_hostDefinition (value : String) (dashboard : Fields) :
    ∃ p, Runner.planOne (hostParams value) hostDefinition ⟨"web", .series, none⟩ dashboard =
      .ok p := by
  have hcompile (bindings : Fields) :
      ∃ plan, compile hostDefinition bindings ⟨0, 1000⟩ 1000 .series = .ok plan := by
    have hrange : TimeRange.ofBounds? 0 1000 = some ⟨0, 1000⟩ := by decide
    rw [compile, if_neg (by decide), hrange]
    exact ⟨_, rfl⟩
  obtain ⟨plan, hplan⟩ := hcompile (layerBindings hostDefinition none dashboard)
  simp only [Runner.planOne, hostParams, hplan]
  exact ⟨_, rfl⟩

/-- The variable is the only binding of the dashboard. -/
theorem expand_hostParams (value : String) :
    Scope.expand hostRunner.multiValued (hostParams value).scopedVars =
      .ok ⟨[("host", .str (Text.decodeEntities value))], [[]]⟩ := rfl

/-- A plain value selects the documents that have it, and one with an escape those that have the
tabulator it stands for. -/
theorem filter_selects_host_plain :
    (∃ p, Runner.planOne (hostParams "web-1") hostDefinition ⟨"web", .series, none⟩
        [("host", .str (Text.decodeEntities "web-1"))] = .ok p ∧
      SelectsHost p.plan (Text.decodeEntities "web-1")) ∧
    (∃ p, Runner.planOne (hostParams "a\\tb") hostDefinition ⟨"web", .series, none⟩
        [("host", .str (Text.decodeEntities "a\\tb"))] = .ok p ∧ SelectsHost p.plan "a\tb") := by
  constructor
  · obtain ⟨p, hp⟩ := planOne_hostDefinition "web-1"
      [("host", .str (Text.decodeEntities "web-1"))]
    have h := filter_selects_host hostRunner (hostParams "web-1") (by decide) rfl rfl (by decide)
      parse_hostFilter rfl (expand_hostParams _) List.mem_cons_self hp
    refine ⟨p, hp, h.1 ?_ ?_⟩ <;> rw [Text.decodeEntities_eq_self (by decide)] <;> decide
  · obtain ⟨p, hp⟩ := planOne_hostDefinition "a\\tb"
      [("host", .str (Text.decodeEntities "a\\tb"))]
    have h := filter_selects_host hostRunner (hostParams "a\\tb") (by decide) rfl rfl (by decide)
      parse_hostFilter rfl (expand_hostParams _) List.mem_cons_self hp
    refine ⟨p, hp, (h.2.1 ['a', '\t', 'b'] ?_).1⟩
    rw [Text.decodeEntities_eq_self (by decide)]
    decide

/-- A quotation mark ends the quoted text, and what follows it here is one more operand. -/
theorem Expr.parse_host_or :
    Expr.parse (String.ofList
      (Expr.hostSource ['\'', 'x', '\'', ' ', 'O', 'R', ' ', '\'', '1', '\''])) =
        .ok (.binary .or (Expr.hostIs "x") (.literal (.str "1"))) := by
  -- both quoted texts are read at the level of their place
  have hx : read .sum ['\'', 'x', '\'', ' ', 'O', 'R', ' ', '\'', '1', '\''] =
      .ok (.literal (.str "x"), [' ', 'O', 'R', ' ', '\'', '1', '\'']) :=
    read_looser (Nat.zero_le _) (read_quoted (.inl rfl) rfl) (by decide)
      (Stops.operator .or (by decide) _) (fun _ _ => negation?_mark (by decide) (by decide) _)
      (fun _ => rfl)
  have hone : read .conjunction ['\'', '1', '\''] = .ok (.literal (.str "1"), []) :=
    read_looser (Nat.zero_le _) (read_quoted (.inl rfl) rfl) (by decide) (Stops.nil _)
      (fun _ _ => negation?_mark (by decide) (by decide) _) (fun _ => rfl)
  have hcomparison := read_comparison_operator rfl (read_host _) (skip_cons (by decide)) hx
  have hleft : read .conjunction (hostSource
      ['\'', 'x', '\'', ' ', 'O', 'R', ' ', '\'', '1', '\'']) =
        .ok (hostIs "x", [' ', 'O', 'R', ' ', '\'', '1', '\'']) :=
    read_looser (by decide) hcomparison (by decide) (Stops.operator .or (by decide) _)
      (fun _ _ => negation?_host _) (fun hlevel => by cases hlevel)
  have hread : read .disjunction (hostSource
      ['\'', 'x', '\'', ' ', 'O', 'R', ' ', '\'', '1', '\'']) =
        .ok (.binary .or (hostIs "x") (.literal (.str "1")), []) := by
    refine (@read_chain .disjunction rfl _ _ _ hleft (by decide)).trans ?_
    refine (@chain_operator .or _ _ _ _ _ (skip_cons (by decide)) hone (by decide)).trans ?_
    exact chain_stop rfl
  have hskip : skip (hostSource ['\'', 'x', '\'', ' ', 'O', 'R', ' ', '\'', '1', '\'']) =
      hostSource ['\'', 'x', '\'', ' ', 'O', 'R', ' ', '\'', '1', '\''] := skip_cons (by decide)
  rw [parse, String.toList_ofList, hskip, hread]
  rfl

/-- A value with a quotation mark changes what the filter says: this one selects documents that do
not have it. -/
theorem filter_changed :
    ∃ p, Runner.planOne (hostParams "x' OR '1") hostDefinition ⟨"web", .series, none⟩
        [("host", .str (Text.decodeEntities "x' OR '1"))] = .ok p ∧
      ¬ SelectsHost p.plan (Text.decodeEntities "x' OR '1") := by
  obtain ⟨p, hp⟩ := planOne_hostDefinition "x' OR '1"
    [("host", .str (Text.decodeEntities "x' OR '1"))]
  refine ⟨p, hp, ?_⟩
  rintro ⟨source, e, hsource, he, hselects⟩
  have hhost : Dict.get? [("host", Json.str (Text.decodeEntities "x' OR '1"))] "host" =
      some (.str (Text.decodeEntities "x' OR '1")) := if_pos rfl
  rw [planOne_hostFilter rfl hhost hp, Text.decodeEntities_eq_self (by decide)] at hsource
  obtain rfl := Option.some.inj hsource
  have hor := Expr.parse_host_or
  rw [show "x' OR '1".toList ++ ['\''] = ['x', '\'', ' ', 'O', 'R', ' ', '\'', '1', '\''] from
    by decide] at he
  obtain rfl := Except.ok.inj (hor.symm.trans he)
  -- the second operand holds for every value, also for one that is no document
  have hholds : ((Expr.binary .or (Expr.hostIs "x") (.literal (.str "1"))).eval
      [("doc", .null)]).truthy = true := by decide
  obtain ⟨fields, hfields, _⟩ := (hselects .null).1 hholds
  cases hfields

end SeriesQuery
