import SeriesQuery.Proofs.Catalog.Index
import SeriesQuery.Proofs.Product

/-!
# The targets of a catalog

A datasource stands for one target a combination: a template, a position on each axis and an
aggregation, nested in this order. The positions of an axis go as far as its longest list, and a
list that has ended gives the empty text. `Catalog.expand_exact` says that there is a catalog
exactly if all combinations have different names, that otherwise the first name which occurred
before is the error, and what is in the catalog and found there by which name.
-/

namespace SeriesQuery.Catalog

/-- What a target is made for: a template, a position on each axis and an aggregation. -/
structure Combination where
  target : Template
  x : Nat
  y : Nat
  z : Nat
  aggregation : Aggregation

section Combinations

variable (d : Datasource)

/-- The items that are configured for a place of an axis. -/
def listed (axis : Axis) (slot : Slot) : List String := parseVariable (d.axisSetting axis slot)

/-- The length of an axis: that of its longest list, and at least one. -/
def axisLength (axis : Axis) : Nat :=
  max 1 (max (listed d axis .first).length
    (max (listed d axis .second).length (listed d axis .third).length))

/-- The value at a position of a list; empty where the list has ended. -/
def valueAt (axis : Axis) (slot : Slot) (position : Nat) : String :=
  ((listed d axis slot)[position]?).getD ""

/-- The combinations of a datasource: templates outermost, then the axes in order, aggregations
innermost. -/
def combinations (templates : CatalogTemplates) (aggregations : List Aggregation) :
    List Combination :=
  templates.targets.flatMap fun target =>
    (List.range (axisLength d .x)).flatMap fun x =>
      (List.range (axisLength d .y)).flatMap fun y =>
        (List.range (axisLength d .z)).flatMap fun z =>
          aggregations.map fun aggregation => ⟨target, x, y, z, aggregation⟩

variable (k : Combination)

/-- The variables of the axes at the positions of a combination. -/
def axisBindings : Fields :=
  [("x1", .str (valueAt d .x .first k.x)), ("x2", .str (valueAt d .x .second k.x)),
    ("x3", .str (valueAt d .x .third k.x)), ("y1", .str (valueAt d .y .first k.y)),
    ("y2", .str (valueAt d .y .second k.y)), ("y3", .str (valueAt d .y .third k.y)),
    ("z1", .str (valueAt d .z .first k.z)), ("z2", .str (valueAt d .z .second k.z)),
    ("z3", .str (valueAt d .z .third k.z))]

/-- The name of the target for a combination. -/
def nameFor : String :=
  k.target.render (("aggregation", .str k.aggregation.name) :: axisBindings d k)

/-- The bindings of the target for a combination, by their keys. -/
def viewFor : Fields :=
  ("aggregation", .str k.aggregation.name) :: ("rawTarget", .str k.target.source) ::
    ("target", .str (nameFor d k)) :: axisBindings d k

/-- The target for a combination. -/
def definitionFor (templates : CatalogTemplates) : Definition where
  name := nameFor d k
  collection := templates.collection.render (viewFor d k)
  aggregation := k.aggregation
  filter := templates.filter
  date := templates.date
  value := templates.value
  dateName := templates.dateName
  valueName := templates.valueName
  displayName := templates.displayName
  view := viewFor d k
  data := Dict.get? d.targetData (nameFor d k)

/-- An axis is as long as its longest list. -/
theorem length_axis (axis : Axis) : ((space d).axis axis).length = axisLength d axis := by
  change max (max (max 1 (listed d axis .first).length) (listed d axis .second).length)
    (listed d axis .third).length = _
  rw [axisLength, Nat.max_assoc, Nat.max_assoc]

/-- Every axis has a position. -/
theorem axisLength_pos (axis : Axis) : 0 < axisLength d axis :=
  Nat.lt_of_lt_of_le Nat.one_pos (Nat.le_max_left 1 _)

/-- The points of the axes, where their number is a word. -/
theorem points_eq (hsize : axisLength d .x * axisLength d .y * axisLength d .z < 2 ^ 64) :
    (space d).points = .ok
      ((List.range (axisLength d .x)).flatMap fun x =>
        (List.range (axisLength d .y)).flatMap fun y =>
          (List.range (axisLength d .z)).map fun z => (space d).pointAt [x, y, z]) := by
  have hdimensions : (space d).positions.dimensions =
      [List.range (axisLength d .x), List.range (axisLength d .y),
        List.range (axisLength d .z)] := by
    simp only [AxisSpace.positions, Axis.all, List.map_cons, List.map_nil, length_axis]
  have hne : [] ∉ (space d).positions.dimensions := by
    rw [hdimensions]
    simp [(axisLength_pos d _).ne']
  have hfits : (space d).positions.Fits := by
    rw [Product.fits_iff hne, Product.count_eq, hdimensions]
    simpa [Nat.mul_assoc] using hsize
  have hlast (l : List Nat) : Product.choices [l] = l.map fun z => [z] := List.map_eq_flatMap.symm
  rw [AxisSpace.points, Product.toList_of_fits hfits, hdimensions, Product.choices,
    Product.choices, hlast]
  refine congrArg Except.ok ?_
  simp only [List.map_flatMap, List.map_map]
  rfl

/-- A target has the name, the bindings and the collection of its combination. -/
theorem define_eq (templates : CatalogTemplates) (target : Template) (x y z : Nat)
    (aggregation : Aggregation) :
    define d templates target ((space d).pointAt [x, y, z]) aggregation =
      definitionFor d ⟨target, x, y, z, aggregation⟩ templates := by
  have hname : Dict.insert (((space d).pointAt [x, y, z]).bind []) "aggregation"
      (.str aggregation.name) =
        ("aggregation", .str aggregation.name) ::
          axisBindings d ⟨target, x, y, z, aggregation⟩ := rfl
  rw [define, hname]
  rfl

/-- There is a target for each combination, in the same order. -/
theorem candidates_eq (templates : CatalogTemplates) (aggregations : List Aggregation) :
    candidates d templates
        ((List.range (axisLength d .x)).flatMap fun x =>
          (List.range (axisLength d .y)).flatMap fun y =>
            (List.range (axisLength d .z)).map fun z => (space d).pointAt [x, y, z])
        aggregations =
      (combinations d templates aggregations).map fun k => definitionFor d k templates := by
  simp only [candidates, combinations, List.map_flatMap, List.flatMap_assoc,
    List.flatMap_map, List.map_map, define_eq]
  rfl

/-- The names of the targets that a datasource stands for, in order. -/
def allNames (templates : CatalogTemplates) (aggregations : List Aggregation) : List String :=
  (combinations d templates aggregations).map (nameFor d)

/-- There are as many combinations as templates, positions and aggregations multiply to. -/
theorem length_combinations (templates : CatalogTemplates) (aggregations : List Aggregation) :
    (combinations d templates aggregations).length =
      templates.targets.length * axisLength d .x * axisLength d .y * axisLength d .z *
        aggregations.length := by
  simp only [combinations, List.length_flatMap, List.length_map, List.map_const',
    List.sum_replicate_nat, List.length_range, Nat.mul_assoc]

/-- Where all settings are read, the targets of the combinations are added in order. -/
theorem expand_eq {templates : CatalogTemplates} {aggregations : List Aggregation}
    (htemplates : CatalogTemplates.ofDatasource d = .ok templates)
    (haggregations : Aggregation.resolve d.aggregation = .ok aggregations)
    (hsize : axisLength d .x * axisLength d .y * axisLength d .z < 2 ^ 64) :
    expand d = ((combinations d templates aggregations).map fun k =>
      definitionFor d k templates).foldlM insert empty := by
  rw [expand, htemplates, haggregations, points_eq d hsize,
    ← candidates_eq d templates aggregations]
  rfl

/-- A catalog holds the targets of all combinations of a datasource, and no others. -/
structure Holds (templates : CatalogTemplates) (aggregations : List Aggregation) (c : Catalog) :
    Prop where
  /-- Each combination has its target at its own place. -/
  definitions_eq : c.definitions =
    (combinations d templates aggregations).map fun k => definitionFor d k templates
  names_eq : c.names = allNames d templates aggregations
  /-- The five counts multiply to the number of targets. -/
  size_eq : c.size = templates.targets.length * axisLength d .x * axisLength d .y *
    axisLength d .z * aggregations.length
  /-- A name leads to the target at the position of the name. -/
  get?_name : ∀ (i : Nat) (name : String), (allNames d templates aggregations)[i]? = some name →
    c.get? name = c.definitions[i]?
  get?_other : ∀ name, name ∉ allNames d templates aggregations → c.get? name = none
  contains_iff : ∀ name, c.contains name = true ↔ ∃ target, c.get? name = some target

end Combinations

/-- The catalog with the targets of all combinations holds them. -/
theorem holds_of_definitions {d : Datasource} {templates : CatalogTemplates}
    {aggregations : List Aggregation} {c : Catalog}
    (h : c.definitions = (combinations d templates aggregations).map fun k =>
      definitionFor d k templates) : Holds d templates aggregations c := by
  have hnames : c.names = allNames d templates aggregations := by
    rw [names, h, List.map_map]
    rfl
  refine ⟨h, hnames, ?_, ?_, ?_, ?_⟩
  · rw [← length_combinations, size, ← Array.length_toList, ← definitions, h, List.length_map]
  · intro i name hname
    rw [← hnames] at hname
    exact get?_of_names hname
  · intro name hname
    rw [← hnames] at hname
    exact get?_eq_none hname
  · intro name
    rw [contains_eq, Option.isSome_iff_exists]

/-- Where all settings are read and the number of points fits a word, there is a catalog exactly if
all names differ, and it holds the targets of all combinations. Otherwise the first name that
occurred before is the error. -/
theorem expand_exact (d : Datasource) {templates : CatalogTemplates}
    {aggregations : List Aggregation}
    (htemplates : CatalogTemplates.ofDatasource d = .ok templates)
    (haggregations : Aggregation.resolve d.aggregation = .ok aggregations)
    (hsize : axisLength d .x * axisLength d .y * axisLength d .z < 2 ^ 64) :
    ((∃ c, expand d = .ok c) ↔ (allNames d templates aggregations).Nodup) ∧
    (∀ c, expand d = .ok c → Holds d templates aggregations c) ∧
    (¬ (allNames d templates aggregations).Nodup → ∃ before name later,
      allNames d templates aggregations = before ++ name :: later ∧ before.Nodup ∧
        name ∈ before ∧ expand d = .error (.duplicateTarget name)) := by
  have hexpand := expand_eq d htemplates haggregations hsize
  have hnames : ((combinations d templates aggregations).map fun k =>
      definitionFor d k templates).map Definition.name = allNames d templates aggregations := by
    rw [List.map_map]
    rfl
  by_cases hnodup : (allNames d templates aggregations).Nodup
  · obtain ⟨c, hc, hdefinitions⟩ := foldlM_insert_ok (hnames ▸ hnodup)
    rw [← hexpand] at hc
    refine ⟨⟨fun _ => hnodup, fun _ => ⟨c, hc⟩⟩, fun c' hc' => ?_, fun h => absurd hnodup h⟩
    obtain rfl : c = c' := Except.ok.inj (hc.symm.trans hc')
    exact holds_of_definitions hdefinitions
  · obtain ⟨before, name, later, hsplit, hbefore, hmem, herror⟩ :=
      foldlM_insert_error (hnames.symm ▸ hnodup)
    rw [← hexpand] at herror
    rw [hnames] at hsplit
    refine ⟨⟨?_, fun h => absurd h hnodup⟩, ?_, fun _ => ⟨before, name, later, hsplit, hbefore,
      hmem, herror⟩⟩
    · rintro ⟨c, hc⟩
      rw [herror] at hc
      cases hc
    · intro c hc
      rw [herror] at hc
      cases hc

/-- Settings with two lists of different lengths on one axis. -/
def pairedSettings : Datasource :=
  { Datasource.default with
    target := "\x7b\x7bx1\x7d\x7d.\x7b\x7bx2\x7d\x7d.\x7b\x7baggregation\x7d\x7d"
    collection := "\x7b\x7bx1\x7d\x7d"
    aggregation := some "AVG,MAX"
    axisSetting := fun axis slot =>
      match axis, slot with
      | .x, .first => some "a,b"
      | .x, .second => some "c"
      | _, _ => none }

/-- The templates of these settings. -/
def pairedTemplates : CatalogTemplates where
  targets := [⟨pairedSettings.target, [.slot ⟨"x1", []⟩, .literal ['.'], .slot ⟨"x2", []⟩,
    .literal ['.'], .slot ⟨"aggregation", []⟩]⟩]
  collection := ⟨pairedSettings.collection, [.slot ⟨"x1", []⟩]⟩
  filter := none
  date := .field ⟨"time", [.literal "time".toList]⟩
  value := .field ⟨"value", [.literal "value".toList]⟩
  dateName := ⟨"time", [.literal "time".toList]⟩
  valueName := ⟨"value", [.literal "value".toList]⟩
  displayName := none

/-- The shorter list goes on with the empty text, and the names come in the order of nesting. -/
theorem expand_exact_paired :
    CatalogTemplates.ofDatasource pairedSettings = .ok pairedTemplates ∧
    Aggregation.resolve pairedSettings.aggregation = .ok [.average, .max] ∧
    axisLength pairedSettings .x * axisLength pairedSettings .y * axisLength pairedSettings .z <
      2 ^ 64 ∧
    ∃ c, expand pairedSettings = .ok c ∧ c.size = 4 ∧
      c.names = ["a.c.AVERAGE", "a.c.MAX", "b..AVERAGE", "b..MAX"] ∧
      (c.get? "b..MAX").map Definition.collection = some "b" ∧ c.get? "b.c.MAX" = none := by
  have htemplates : CatalogTemplates.ofDatasource pairedSettings = .ok pairedTemplates := by
    decide +kernel
  have haggregations : Aggregation.resolve pairedSettings.aggregation = .ok [.average, .max] := by
    decide +kernel
  have hsize : axisLength pairedSettings .x * axisLength pairedSettings .y *
      axisLength pairedSettings .z < 2 ^ 64 := by decide
  have hnames : allNames pairedSettings pairedTemplates [.average, .max] =
      ["a.c.AVERAGE", "a.c.MAX", "b..AVERAGE", "b..MAX"] := by decide
  obtain ⟨hok, hholds, -⟩ := expand_exact pairedSettings htemplates haggregations hsize
  obtain ⟨c, hc⟩ := hok.2 (by rw [hnames]; decide)
  obtain ⟨hdefinitions, hcnames, hcsize, hfound, hother, -⟩ := hholds c hc
  refine ⟨htemplates, haggregations, hsize, c, hc, hcsize.trans (by decide), hcnames.trans hnames,
    ?_, hother "b.c.MAX" (by rw [hnames]; decide)⟩
  rw [hfound 3 "b..MAX" (by rw [hnames]; rfl), hdefinitions]
  decide

end SeriesQuery.Catalog
