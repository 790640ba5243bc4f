import SeriesQuery.Proofs.Catalog.Validation
import SeriesQuery.Proofs.Query.Compile
import SeriesQuery.Proofs.Template.Spelling

/-!
# Headings of columns

Where a heading is not configured, the template of the attribute is the heading too. A plan has the
heading as it is rendered, and reads the attribute of the trimmed name, so the two are the same
unless there are blanks at the ends of the rendered text. `heading_of_attribute` says so for
both columns, and that such blanks come only with the values of slots at the ends of the template.
-/

namespace SeriesQuery

/-- What is read of an attribute with a template for its name, and the heading above it. -/
structure HeadedByAttribute (t : Template) (read : Source String) (heading : String) : Prop where
  /-- The attribute has the name in the heading, without blanks at its ends. -/
  trimmed : read = .field (Text.trim heading)
  /-- The heading is the name of the attribute exactly if there are no such blanks. -/
  same_iff : read = .field heading ↔ Text.Bare heading.toList
  /-- There are none where the template starts and ends with plain text. -/
  plain : t.PlainEnds → read = .field heading

namespace CatalogTemplates

/-- The settings for the times of a datasource. -/
def dateSettings (d : Datasource) : SourceSettings where
  fieldName := "dateField"
  field := d.dateField
  expressionName := "dateExpression"
  expression := d.dateExpression
  fallback := "time"

/-- The settings for the values of a datasource. -/
def valueSettings (d : Datasource) : SourceSettings where
  fieldName := "valueField"
  field := d.valueField
  expressionName := "valueExpression"
  expression := d.valueExpression
  fallback := "value"

/-- The sources of a datasource are read from its settings, and the headings after them. -/
theorem columns_of_ofDatasource {d : Datasource} {templates : CatalogTemplates}
    (h : ofDatasource d = .ok templates) :
    (readSource (dateSettings d) = .ok templates.date ∧
      readHeading "dateName" d.dateName templates.date "date" = .ok templates.dateName) ∧
    readSource (valueSettings d) = .ok templates.value ∧
      readHeading "valueName" d.valueName templates.value "value" = .ok templates.valueName := by
  unfold ofDatasource at h
  obtain ⟨targets, htargets, h⟩ := exists_of_bind_ok h
  split at h
  · split at h
    · cases h
    · obtain ⟨_, hread, h⟩ := exists_of_bind_ok h
      obtain ⟨_, hdate, h⟩ := exists_of_bind_ok h
      obtain ⟨_, hvalue, h⟩ := exists_of_bind_ok h
      obtain ⟨_, hdateName, h⟩ := exists_of_bind_ok h
      obtain ⟨_, hvalueName, h⟩ := exists_of_bind_ok h
      obtain ⟨_, hfilter, h⟩ := exists_of_bind_ok h
      obtain ⟨_, hdisplayName, h⟩ := exists_of_bind_ok h
      cases h
      exact ⟨⟨hdate, hdateName⟩, hvalue, hvalueName⟩
  · split at h <;> cases h

/-- The name of an attribute is a template of a text without blanks at its ends. -/
theorem parse_of_readSource_field {s : SourceSettings} {t : Template}
    (h : readSource s = .ok (.field t)) (hfallback : Text.Bare s.fallback.toList) :
    ∃ text, Text.Bare text.toList ∧ Template.parse text = .ok t := by
  unfold readSource at h
  split at h
  · obtain ⟨_, -, hsource⟩ := exists_of_map_ok h
    cases hsource
  · obtain ⟨t', hread, hsource⟩ := exists_of_map_ok h
    cases hsource
    refine ⟨_, ?_, parse_eq_of_read hread⟩
    cases hfield : Text.nonBlank? s.field with
    | none => exact hfallback
    | some text => exact (Text.bare_of_nonBlank? hfield).1

/-- A heading that is not configured is the template of the attribute. -/
theorem eq_of_readHeading {setting word : String} {heading : Option String} {t name : Template}
    (h : readHeading setting heading (.field t) word = .ok name)
    (hblank : Text.nonBlank? heading = none) : name = t := by
  unfold readHeading at h
  rw [hblank] at h
  exact (Except.ok.inj h).symm

/-- An attribute is headed by its name where no heading is configured. -/
theorem headedByAttribute {s : SourceSettings} {setting word : String} {heading : Option String}
    {t name : Template} (hsource : readSource s = .ok (.field t))
    (hname : readHeading setting heading (.field t) word = .ok name)
    (hblank : Text.nonBlank? heading = none) (hfallback : Text.Bare s.fallback.toList)
    (bindings : Fields) :
    HeadedByAttribute t (renderSource (.field t) bindings) (name.render bindings) := by
  obtain rfl := eq_of_readHeading hname hblank
  obtain ⟨text, hbare, hparse⟩ := parse_of_readSource_field hsource hfallback
  have hsame : renderSource (.field name) bindings = .field (name.render bindings) ↔
      Text.Bare (name.render bindings).toList := by
    rw [renderSource, Source.map, Source.field.injEq, Text.trim, ← Text.trimChars_eq_self_iff,
      ← String.toList_inj, String.toList_ofList]
  exact ⟨rfl, hsame, fun hends => hsame.2 (Template.render_bare hparse hends hbare bindings)⟩

end CatalogTemplates

namespace Catalog

variable {d : Datasource} {c : Catalog} {target : Definition}

/-- A target of a catalog has the sources and the headings that are configured. -/
theorem columns_of_expand (hc : expand d = .ok c) (htarget : target ∈ c.definitions) :
    ∃ templates, CatalogTemplates.ofDatasource d = .ok templates ∧
      target.date = templates.date ∧ target.value = templates.value ∧
      target.dateName = templates.dateName ∧ target.valueName = templates.valueName := by
  obtain ⟨templates, points, aggregations, htemplates, hdefinitions⟩ := definitions_of_expand hc
  rw [hdefinitions] at htarget
  obtain ⟨name, -, htarget⟩ := List.mem_flatMap.1 htarget
  obtain ⟨point, -, htarget⟩ := List.mem_flatMap.1 htarget
  obtain ⟨aggregation, -, rfl⟩ := List.mem_map.1 htarget
  exact ⟨templates, htemplates, rfl, rfl, rfl, rfl⟩

/-- Where a heading is not configured and the source is an attribute, a compiled plan reads the
attribute of the trimmed heading, whatever the bindings are. -/
theorem heading_of_attribute (hc : expand d = .ok c) (htarget : target ∈ c.definitions)
    {bindings : Fields} {range : TimeRange} {interval : Int64} {shape : Shape} {plan : Plan}
    (hplan : compile target bindings range interval shape = .ok plan) :
    (Text.nonBlank? d.dateName = none → ∀ t, target.date = .field t →
      HeadedByAttribute t plan.date plan.dateName) ∧
    (Text.nonBlank? d.valueName = none → ∀ t, target.value = .field t →
      HeadedByAttribute t plan.value plan.valueName) := by
  obtain ⟨templates, htemplates, hdate, hvalue, hdateName, hvalueName⟩ :=
    columns_of_expand hc htarget
  obtain ⟨⟨hreadDate, hreadDateName⟩, hreadValue, hreadValueName⟩ :=
    CatalogTemplates.columns_of_ofDatasource htemplates
  have htime : Text.Bare "time".toList := Text.bare_of_all (by decide)
  have hword : Text.Bare "value".toList := Text.bare_of_all (by decide)
  obtain rfl := compile_ok hplan
  constructor
  · intro hblank t ht
    rw [← hdate, ht] at hreadDate hreadDateName
    simp only [renderedPlan, ht, hdateName]
    exact CatalogTemplates.headedByAttribute hreadDate hreadDateName hblank htime bindings
  · intro hblank t ht
    rw [← hvalue, ht] at hreadValue hreadValueName
    simp only [renderedPlan, ht, hvalueName]
    exact CatalogTemplates.headedByAttribute hreadValue hreadValueName hblank hword bindings

/-- Settings of one target, with slots in the names of both attributes and no headings. -/
def slotSettings : Datasource :=
  { Datasource.default with
    target := "cpu"
    collection := "cpu"
    aggregation := some "NONE"
    dateField := some "\x7b\x7bf\x7d\x7d"
    valueField := some "m_\x7b\x7bf\x7d\x7d_p" }

/-- The template of the attribute with the times. -/
def slotTemplate : Template := ⟨"\x7b\x7bf\x7d\x7d", [.slot ⟨"f", []⟩]⟩

/-- The template of the attribute with the values. -/
def betweenTemplate : Template :=
  ⟨"m_\x7b\x7bf\x7d\x7d_p", [.literal ['m', '_'], .slot ⟨"f", []⟩, .literal ['_', 'p']]⟩

/-- A plan of a target for data with a name after a blank. -/
def blankPlan? (target : Definition) : Except QueryError Plan :=
  compile target (layerBindings target (some [("f", .str " ts")]) []) ⟨0, 1000⟩ 1000 .table

/-- The columns of the plan: the blank is part of the heading of the times, and not of their
attribute. -/
theorem exists_blankPlan : ∃ c target plan, expand slotSettings = .ok c ∧ target ∈ c.definitions ∧
    blankPlan? target = .ok plan ∧ target.date = .field slotTemplate ∧
    target.value = .field betweenTemplate ∧ plan.date = .field "ts" ∧ plan.dateName = " ts" ∧
    plan.valueName = "m_ ts_p" := by
  obtain ⟨c, hc, hany⟩ := exists_of_any (d := slotSettings)
    (p := fun c => c.definitions.any fun target =>
      (blankPlan? target).toOption.any fun plan =>
        target.date = .field slotTemplate ∧ target.value = .field betweenTemplate ∧
          plan.date = .field "ts" ∧ plan.dateName = " ts" ∧ plan.valueName = "m_ ts_p")
    (by decide +kernel)
  obtain ⟨target, htarget, hplan⟩ := List.any_eq_true.1 hany
  obtain ⟨plan, hplan, hcolumns⟩ := exists_of_toOption_any hplan
  exact ⟨c, target, plan, hc, htarget, hplan, of_decide_eq_true hcolumns⟩

/-- Both columns of the plan are headed by what is read, and between plain text the blank is part of
the attribute too. -/
theorem heading_of_attribute_plain : ∃ c target plan, expand slotSettings = .ok c ∧
    target ∈ c.definitions ∧ blankPlan? target = .ok plan ∧
    HeadedByAttribute slotTemplate plan.date plan.dateName ∧ plan.valueName = "m_ ts_p" ∧
    plan.value = .field "m_ ts_p" := by
  obtain ⟨c, target, plan, hc, htarget, hplan, hdate, hvalue, -, -, hname⟩ := exists_blankPlan
  obtain ⟨hdates, hvalues⟩ := heading_of_attribute hc htarget hplan
  have hends : betweenTemplate.PlainEnds := by
    constructor
    · rintro _ ⟨⟩
      exact ⟨_, rfl⟩
    · rintro _ ⟨⟩
      exact ⟨_, rfl⟩
  refine ⟨c, target, plan, hc, htarget, hplan, hdates rfl _ hdate, hname, ?_⟩
  rw [← hname]
  exact (hvalues rfl _ hvalue).plain hends

/-- The value of a slot at the start of a name brings a blank into the heading that the attribute
does not have. -/
theorem blank_in_heading : ∃ c target plan, expand slotSettings = .ok c ∧
    target ∈ c.definitions ∧ Text.nonBlank? slotSettings.dateName = none ∧
    target.date = .field slotTemplate ∧
    compile target (layerBindings target (some [("f", .str " ts")]) []) ⟨0, 1000⟩ 1000 .table =
      .ok plan ∧
    plan.date = .field "ts" ∧ plan.date ≠ .field plan.dateName := by
  obtain ⟨c, target, plan, hc, htarget, hplan, hslot, -, hdate, hname, -⟩ := exists_blankPlan
  refine ⟨c, target, plan, hc, htarget, rfl, hslot, hplan, hdate, ?_⟩
  rw [hdate, hname]
  decide

end Catalog

end SeriesQuery
