import SeriesQuery.Proofs.Catalog.Index
import SeriesQuery.Proofs.Query.Failures

/-!
# Templates that are read when a catalog is made

The templates of a datasource are read before there is a target, so a setting that is no template is
an error then. The further data of a target are not: a name among them is a text until a request
asks for the target. `template_failures` says that this is the one way in which a configured text
makes a request fail for a template, and that it always does.
-/

namespace SeriesQuery

namespace Datasource

/-- The texts that are configured for the templates of a catalog. An attribute is not used beside
an expression. -/
def templateTexts (d : Datasource) : List String :=
  (Text.items d.target).filter (· ≠ "") ++
    [Text.nonBlank? (some d.collection),
      (Text.nonBlank? d.dateExpression).or (Text.nonBlank? d.dateField),
      (Text.nonBlank? d.valueExpression).or (Text.nonBlank? d.valueField),
      Text.nonBlank? d.dateName, Text.nonBlank? d.valueName, Text.nonBlank? d.filter,
      Text.nonBlank? d.displayName].filterMap id

/-- The name that the further data of a target have for what is shown, unless it is empty. -/
def staticName? (d : Datasource) (target : String) : Option String :=
  (Runner.aliasOf? (Dict.get? d.targetData target)).filter (· ≠ "")

end Datasource

namespace CatalogTemplates

variable {setting text : String} {t : Template}

/-- What is read is the template of the text. -/
theorem parse_eq_of_read (h : read setting text = .ok t) : Template.parse text = .ok t := by
  unfold read at h
  cases hparse : Template.parse text with
  | error e =>
      rw [hparse] at h
      cases h
  | ok t' =>
      rw [hparse] at h
      exact congrArg Except.ok (Except.ok.inj h)

/-- What is read is a template. -/
theorem parse_of_read (h : read setting text = .ok t) : ∃ t, Template.parse text = .ok t :=
  ⟨t, parse_eq_of_read h⟩

/-- What is read for a setting that may be missing is a template. -/
theorem parse_of_read? {source : Option String} {found : Option Template}
    (h : read? setting source = .ok found) (htext : Text.nonBlank? source = some text) :
    ∃ t, Template.parse text = .ok t := by
  unfold read? at h
  simp only [htext] at h
  obtain ⟨t, hread, -⟩ := exists_of_map_ok h
  exact parse_of_read hread

/-- What is read for a source is a template, the expression before the attribute. -/
theorem parse_of_readSource {s : SourceSettings} {source : Source Template}
    (h : readSource s = .ok source)
    (htext : (Text.nonBlank? s.expression).or (Text.nonBlank? s.field) = some text) :
    ∃ t, Template.parse text = .ok t := by
  unfold readSource at h
  cases hexpression : Text.nonBlank? s.expression with
  | some expression =>
      rw [hexpression, Option.some_or] at htext
      cases htext
      rw [hexpression] at h
      obtain ⟨t, hread, -⟩ := exists_of_map_ok h
      exact parse_of_read hread
  | none =>
      rw [hexpression, Option.none_or] at htext
      rw [hexpression, htext, Option.getD_some] at h
      obtain ⟨t, hread, -⟩ := exists_of_map_ok h
      exact parse_of_read hread

/-- What is read for a heading is a template. -/
theorem parse_of_readHeading {heading : Option String} {source : Source Template} {word : String}
    (h : readHeading setting heading source word = .ok t)
    (htext : Text.nonBlank? heading = some text) : ∃ t, Template.parse text = .ok t := by
  unfold readHeading at h
  rw [htext] at h
  exact parse_of_read h

/-- Where the templates of a datasource are read, all its texts for them are templates. -/
theorem parse_of_ofDatasource {d : Datasource} {templates : CatalogTemplates}
    (h : ofDatasource d = .ok templates) :
    ∀ text ∈ d.templateTexts, ∃ t, Template.parse text = .ok t := by
  unfold ofDatasource at h
  obtain ⟨targets, htargets, h⟩ := exists_of_bind_ok h
  have hnames : ∀ text ∈ (Text.items d.target).filter (· ≠ ""),
      ∃ t, Template.parse text = .ok t := by
    intro text htext
    obtain ⟨t, hread⟩ := forall_of_mapM_ok htargets text htext
    exact parse_of_read hread
  -- without a name or without a collection nothing is read
  split at h
  · next collection hcollection =>
      split at h
      · cases h
      · obtain ⟨_, hread, h⟩ := exists_of_bind_ok h
        obtain ⟨_, hdate, h⟩ := exists_of_bind_ok h
        obtain ⟨_, hvalue, h⟩ := exists_of_bind_ok h
        obtain ⟨_, hdateName, h⟩ := exists_of_bind_ok h
        obtain ⟨_, hvalueName, h⟩ := exists_of_bind_ok h
        obtain ⟨_, hfilter, h⟩ := exists_of_bind_ok h
        obtain ⟨_, hdisplayName, h⟩ := exists_of_bind_ok h
        intro text htext
        rw [Datasource.templateTexts, List.mem_append] at htext
        rcases htext with htext | htext
        · exact hnames text htext
        · simp only [List.mem_filterMap, List.mem_cons, List.not_mem_nil, or_false, id_eq,
            exists_eq_or_imp, exists_eq_left] at htext
          rcases htext with htext | htext | htext | htext | htext | htext | htext
          · cases hcollection.symm.trans htext
            exact parse_of_read hread
          · exact parse_of_readSource hdate htext
          · exact parse_of_readSource hvalue htext
          · exact parse_of_readHeading hdateName htext
          · exact parse_of_readHeading hvalueName htext
          · exact parse_of_read? hfilter htext
          · exact parse_of_read? hdisplayName htext
  · split at h <;> cases h

end CatalogTemplates

namespace Catalog

variable {d : Datasource} {c : Catalog}

/-- A catalog holds the targets that its settings stand for, and their templates were read. -/
theorem definitions_of_expand (h : expand d = .ok c) :
    ∃ templates points aggregations, CatalogTemplates.ofDatasource d = .ok templates ∧
      c.definitions = candidates d templates points aggregations := by
  unfold expand at h
  obtain ⟨templates, htemplates, h⟩ := exists_of_bind_ok h
  obtain ⟨aggregations, -, h⟩ := exists_of_bind_ok h
  obtain ⟨points, -, h⟩ := exists_of_bind_ok h
  refine ⟨templates, points, aggregations, htemplates, ?_⟩
  by_cases hnodup : ((candidates d templates points aggregations).map Definition.name).Nodup
  · obtain ⟨c', hc', hdefinitions⟩ := foldlM_insert_ok hnodup
    cases hc'.symm.trans h
    exact hdefinitions
  · obtain ⟨_, _, _, -, -, -, herror⟩ := foldlM_insert_error hnodup
    cases herror.symm.trans h

/-- A target is found under its own name. -/
theorem name_of_get? {name : String} {t : Definition} (h : c.get? name = some t) :
    t.name = name := by
  obtain ⟨i, hi, ht⟩ := Option.bind_eq_some_iff.1 h
  have hname := (c.inStep name i).1 hi
  rw [ht] at hname
  exact Option.some.inj hname

/-- A target has the further data that are configured for its name. -/
theorem data_of_get? (h : expand d = .ok c) {name : String} {t : Definition}
    (ht : c.get? name = some t) : t.data = Dict.get? d.targetData name := by
  obtain ⟨templates, points, aggregations, -, hdefinitions⟩ := definitions_of_expand h
  have hmem := mem_definitions_of_get? ht
  rw [hdefinitions] at hmem
  obtain ⟨target, -, hmem⟩ := List.mem_flatMap.1 hmem
  obtain ⟨point, -, hmem⟩ := List.mem_flatMap.1 hmem
  obtain ⟨aggregation, -, rfl⟩ := List.mem_map.1 hmem
  exact congrArg (Dict.get? d.targetData) (name_of_get? ht)

/-- Where a request brings no name, that of the further data is used. -/
theorem boundName?_of_get? (h : expand d = .ok c) {q : TargetQuery} {t : Definition}
    (ht : c.get? q.target = some t) (hplain : Runner.aliasOf? q.data = none) :
    Runner.boundName? t q.data = d.staticName? q.target := by
  rw [Runner.boundName?, hplain, Option.none_or, data_of_get? h ht, Datasource.staticName?]

/-- The configured name for what is shown of a target is no template. -/
def HasBadStaticName (d : Datasource) (target : String) (e : TemplateError) : Prop :=
  ∃ source, d.staticName? target = some source ∧ Template.parse source = .error e

/-- Where a request brings no name, a plan fails for the configured one. -/
theorem hasBadName_iff (h : expand d = .ok c) {q : TargetQuery} {t : Definition}
    (ht : c.get? q.target = some t) (hplain : Runner.aliasOf? q.data = none) {e : TemplateError} :
    Runner.HasBadName t q.data e ↔ HasBadStaticName d q.target e := by
  unfold Runner.HasBadName HasBadStaticName
  rw [boundName?_of_get? h ht hplain]

section Requests

variable {r : Runner} {params : QueryParams}

/-- Where a request brings no names, what fails for a template is a target whose configured name is
none. -/
theorem hasBadStaticName_of_lacksPlan (h : expand d = .ok r.catalog)
    (hplain : ∀ q ∈ params.targets, Runner.aliasOf? q.data = none) {e : TemplateError}
    (hlacks : r.LacksPlan params (.template e)) :
    ∃ q ∈ params.targets, HasBadStaticName d q.target e := by
  obtain ⟨⟨hq, ht⟩, -, hplan⟩ := hlacks
  exact ⟨_, hq, (hasBadName_iff h ht (hplain _ hq)).1 (planOne_template hplan)⟩

/-- Where a catalog is made, all texts that are configured for its templates are templates. A
request that brings no names for its targets fails for a template only if the further data of a
target that it asks for have a name which is none, and a request for such a target alone always
fails so, if a word can count the choices of its variables. If no word can, a request fails for that
and for no template. -/
theorem template_failures (h : expand d = .ok r.catalog)
    (hplain : ∀ q ∈ params.targets, Runner.aliasOf? q.data = none) :
    (∀ text ∈ d.templateTexts, ∃ t, Template.parse text = .ok t) ∧
    (∀ e, r.plan params = .error (.template e) →
      ∃ q ∈ params.targets, HasBadStaticName d q.target e) ∧
    (∀ {σ : Type} (store : DocumentStore σ) (s : σ) (e : TemplateError),
      (r.query store params s).1 = .error (.template e) →
        ∃ q ∈ params.targets, HasBadStaticName d q.target e) ∧
    (∀ q e, params.targets = [q] → r.catalog.contains q.target = true →
      HasBadStaticName d q.target e → 0 < params.interval →
      params.range.start < params.range.stop →
      ((Scope.selections r.multiValued params.scopedVars).map List.length).prod < 2 ^ 64 →
        r.plan params = .error (.template e) ∧
        ∀ {σ : Type} (store : DocumentStore σ) (s : σ),
          r.query store params s = (.error (.template e), s)) ∧
    (2 ^ 64 ≤ ((Scope.selections r.multiValued params.scopedVars).map List.length).prod →
      r.plan params = .error (.overflow .multiply) ∧
      ∀ {σ : Type} (store : DocumentStore σ) (s : σ),
        r.query store params s = (.error (.overflow .multiply), s)) := by
  refine ⟨?_, fun e hplan => ?_, fun store s e hquery => ?_,
    fun q e htargets hcontains hbad hinterval hrange hcount => ?_, fun hcount => ?_⟩
  · obtain ⟨templates, _, _, htemplates, -⟩ := definitions_of_expand h
    exact CatalogTemplates.parse_of_ofDatasource htemplates
  · rcases Runner.plan_error_cases hplan with ⟨o, _, hoverflow⟩ | ⟨q, _, _, hunknown⟩ | hlacks
    · cases hoverflow
    · cases hunknown
    · exact hasBadStaticName_of_lacksPlan h hplain hlacks
  · rcases Runner.query_error hquery with
      ⟨o, _, hoverflow⟩ | ⟨_, hunknown⟩ | hlacks | ⟨x, hstore, _⟩
    · cases hoverflow
    · cases hunknown
    · exact hasBadStaticName_of_lacksPlan h hplain hlacks
    · cases hstore
  · rw [contains_eq] at hcontains
    obtain ⟨t, ht⟩ := Option.isSome_iff_exists.1 hcontains
    have hq := hplain q (htargets ▸ List.mem_singleton_self q)
    have hbad' := (hasBadName_iff h ht hq).2 hbad
    have hscope := Scope.expand_of_fits hcount
    exact ⟨Runner.plan_of_hasBadName hinterval hrange hscope hbad' htargets ht,
      fun store s => Runner.query_of_hasBadName hinterval hrange hscope hbad' htargets ht s⟩
  · have hscope := Scope.expand_of_not_fits hcount
    exact ⟨r.plan_overflow params hscope, fun store s => r.query_overflow store params hscope s⟩

end Requests

/-- Settings with one target, whose further data have a name for what is shown. -/
def namedSettings (name : String) : Datasource :=
  { Datasource.default with
    target := "cpu"
    collection := "cpu"
    aggregation := some "NONE"
    targetData := [("cpu", [("alias", .str name)])] }

/-- A request for this target that brings no name. -/
def namedRequest : QueryParams := ⟨⟨0, 1000⟩, 1000, [⟨"cpu", .series, none⟩], []⟩

/-- There is a catalog where one is found to have some property. -/
theorem exists_of_any {p : Catalog → Bool} (h : (expand d).toOption.any p = true) :
    ∃ c, expand d = .ok c ∧ p c = true :=
  exists_of_toOption_any h

/-- The request brings no name. -/
theorem namedRequest_plain : ∀ q ∈ namedRequest.targets, Runner.aliasOf? q.data = none := by
  intro q hq
  cases List.mem_singleton.1 hq
  rfl

/-- Where the configured name is a template, the request does not fail for one. -/
theorem template_failures_wellformed :
    ∃ c, expand (namedSettings "\x7b\x7bhost\x7d\x7d") = .ok c ∧
      (∀ q ∈ namedRequest.targets, Runner.aliasOf? q.data = none) ∧
      ∀ e, (Runner.ofDatasource (namedSettings "\x7b\x7bhost\x7d\x7d") c).plan namedRequest ≠
        .error (.template e) := by
  obtain ⟨c, hc, -⟩ := exists_of_any (d := namedSettings "\x7b\x7bhost\x7d\x7d")
    (p := fun c => c.contains "cpu") (by decide +kernel)
  refine ⟨c, hc, namedRequest_plain, fun e hplan => ?_⟩
  obtain ⟨-, hfailure, -⟩ := template_failures
    (r := Runner.ofDatasource (namedSettings "\x7b\x7bhost\x7d\x7d") c) hc namedRequest_plain
  obtain ⟨q, hq, source, hsource, herror⟩ := hfailure e hplan
  cases List.mem_singleton.1 hq
  cases hsource
  have hparse : (Template.parse "\x7b\x7bhost\x7d\x7d").isOk = true := by decide +kernel
  rw [herror] at hparse
  cases hparse

/-- A configured name that is never closed is no reason against a catalog, but against every request
for its target. -/
theorem unclosed_name_accepted :
    ∃ c, expand (namedSettings "\x7b\x7bhost") = .ok c ∧
      (∀ q ∈ namedRequest.targets, Runner.aliasOf? q.data = none) ∧
      (Runner.ofDatasource (namedSettings "\x7b\x7bhost") c).plan namedRequest =
        .error (.template (.unclosed "\x7b\x7bhost" 0)) ∧
      ∀ (σ : Type) (store : DocumentStore σ) (s : σ),
        (Runner.ofDatasource (namedSettings "\x7b\x7bhost") c).query store namedRequest s =
          (.error (.template (.unclosed "\x7b\x7bhost" 0)), s) := by
  obtain ⟨c, hc, hcontains⟩ := exists_of_any (d := namedSettings "\x7b\x7bhost")
    (p := fun c => c.contains "cpu") (by decide +kernel)
  obtain ⟨t, ht⟩ := Option.isSome_iff_exists.1 (contains_eq c "cpu" ▸ hcontains)
  have hparse : Template.parse "\x7b\x7bhost" = .error (.unclosed "\x7b\x7bhost" 0) := by
    decide +kernel
  have hbad : Runner.HasBadName t none (.unclosed "\x7b\x7bhost" 0) :=
    (hasBadName_iff (q := ⟨"cpu", .series, none⟩) hc ht rfl).2 ⟨_, rfl, hparse⟩
  have hscope : Scope.expand (Runner.ofDatasource (namedSettings "\x7b\x7bhost") c).multiValued
      namedRequest.scopedVars = .ok ⟨[], [[]]⟩ := rfl
  exact ⟨c, hc, namedRequest_plain,
    Runner.plan_of_hasBadName (by decide) (by decide) hscope hbad rfl ht,
    fun σ store s => Runner.query_of_hasBadName (by decide) (by decide) hscope hbad rfl ht s⟩

end Catalog

end SeriesQuery
