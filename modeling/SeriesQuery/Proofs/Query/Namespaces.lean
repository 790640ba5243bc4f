import SeriesQuery.Proofs.Dict
import SeriesQuery.Proofs.Product
import SeriesQuery.Proofs.Text.Resolved
import SeriesQuery.Query.Scope

/-!
# The bindings of a dashboard

Of the variables of a request those that are not hidden are bound, in every combination, and no
others. One that is declared to have several values is bound to one of them, each other one to its
value. `Scope.namespaces_exact` says that there is one set of bindings for each choice, in the order
of the choices, where a word can count the choices.
-/

namespace SeriesQuery.Scope

section Specification

/-- A value and what it is bound as: the references in texts are resolved, also inside arrays, null
there is the empty text, and everything else stays as it is. -/
inductive Decoded : Json → Json → Prop where
  | null : Decoded .null (.str "")
  | bool (b : Bool) : Decoded (.bool b) (.bool b)
  | num (n : Number) : Decoded (.num n) (.num n)
  | str {s text : String} :
      Text.Resolved s.toList text.toList → Decoded (.str s) (.str text)
  | arr {items decoded : List Json} :
      List.Forall₂ Decoded items decoded → Decoded (.arr items) (.arr decoded)
  | obj (fields : Fields) : Decoded (.obj fields) (.obj fields)

/-- The values that are chosen from: the items of an array, of an empty one the empty text, and
otherwise the value itself. -/
def choosable : Json → List Json
  | .arr [] => [.str ""]
  | .arr items => items
  | value => [value]

variable (declared : List String) (vars : ScopedVars)

/-- The variables that are not hidden, in order. -/
def visible : List String := (Dict.keys vars).filter fun name => !isHidden name

/-- The declared variables that the request has, as they are declared. -/
def varied : List String := declared.filter (· ∈ visible vars)

/-- The value of a variable. -/
def valueOf (name : String) : Json := ((Dict.get? vars name).map ScopedVariable.value).getD .null

/-- What is chosen from, for each declared variable that the request has. -/
def selections : List (List Json) := (varied declared vars).map fun name =>
  choosable (valueOf vars name)

/-- Bindings have a value, decoded, under a name. -/
def Binds (bindings : Fields) (name : String) (value : Json) : Prop :=
  ∃ bound, Dict.get? bindings name = some bound ∧ Decoded value bound

/-- The bindings that belong to a choice of values. -/
structure IsNamespace (choice : List Json) (bindings : Fields) : Prop where
  /-- The variables that are not hidden are bound, and no others. -/
  keys_eq : Dict.keys bindings = visible vars
  /-- A declared variable is bound to its chosen value. -/
  chosen : List.Forall₂ (Binds bindings) (varied declared vars) choice
  /-- Every other variable is bound to its value. -/
  whole : ∀ name ∈ visible vars, name ∉ declared → Binds bindings name (valueOf vars name)

end Specification

variable {declared : List String} {vars : ScopedVars}

/-- Items are decoded one by one. -/
theorem decodeItems_eq (items : List Json) : decodeItems items = items.map decode := by
  induction items with
  | nil => rfl
  | cons v vs ih => rw [decodeItems, ih, List.map_cons]

mutual

/-- Values are decoded as they should be. -/
theorem decoded_decode : ∀ v : Json, Decoded v (decode v)
  | .null => .null
  | .bool b => .bool b
  | .num n => .num n
  | .str s => .str (by
      rw [Text.decodeEntities, String.toList_ofList]
      exact Text.resolved_decodeEntityChars s.toList)
  | .arr items => .arr (decoded_decodeItems items)
  | .obj fields => .obj fields

/-- Items are decoded as they should be. -/
theorem decoded_decodeItems : ∀ items : List Json, List.Forall₂ Decoded items (decodeItems items)
  | [] => .nil
  | v :: vs => .cons (decoded_decode v) (decoded_decodeItems vs)

end

/-- Chosen values are decoded. -/
theorem elements_eq (v : Json) : elements v = (choosable v).map decode := by
  cases v with
  | arr items =>
      cases items with
      | nil => simp [elements, choosable, decode, Text.decodeEntities, Text.decodeEntityChars]
      | cons v vs => exact decodeItems_eq (v :: vs)
  | _ => rfl

/-- There is something to choose from. -/
theorem choosable_ne_nil (v : Json) : choosable v ≠ [] := by
  rcases v with _ | _ | _ | _ | (_ | _) | _ <;> exact List.cons_ne_nil _ _

/-- A variable that is not hidden has a value. -/
theorem mem_visible_iff {name : String} :
    name ∈ visible vars ↔ isHidden name = false ∧ ∃ v, Dict.get? vars name = some v := by
  rw [visible, List.mem_filter, ← Dict.isSome_get?_iff, Option.isSome_iff_exists, and_comm,
    Bool.not_eq_true']

/-- The declared variables that the request has, with their values. -/
theorem present_eq : present declared vars =
    (varied declared vars).map fun name => (name, elements (valueOf vars name)) := by
  rw [present, varied]
  induction declared with
  | nil => rfl
  | cons name names ih =>
      -- a declared name is passed over if it is hidden, and if the request lacks it
      by_cases hhidden : isHidden name = true
      · have hvisible : name ∉ visible vars := by simp [mem_visible_iff, hhidden]
        simpa [hhidden, hvisible] using ih
      · cases hv : Dict.get? vars name with
        | none =>
            have hvisible : name ∉ visible vars := by simp [mem_visible_iff, hv]
            simpa [hhidden, hv, hvisible] using ih
        | some v =>
            have hvisible : name ∈ visible vars := by simp [mem_visible_iff, hv, hhidden]
            simpa [hhidden, hv, hvisible, valueOf] using ih

/-- The bindings of the declared variables for a choice of values. -/
def combination (declared : List String) (vars : ScopedVars) (choice : List Json) : Fields :=
  Dict.ofList ((varied declared vars).zip (choice.map decode))

/-- What a request is split up into, given the choices of values. -/
def scopeOf (declared : List String) (vars : ScopedVars) (choices : List (List Json)) : Scope where
  single := others declared vars
  combinations := choices.map (combination declared vars)

/-- A request is split up if the choices can be walked over, into one combination for each. -/
theorem expand_eq : expand declared vars =
    (Product.mk (selections declared vars)).toList.map (scopeOf declared vars) := by
  have hnames : (present declared vars).map Prod.fst = varied declared vars := by
    rw [present_eq, List.map_map]
    exact List.map_id _
  have hdimensions : (present declared vars).map Prod.snd =
      (selections declared vars).map (List.map decode) := by
    rw [present_eq, selections, List.map_map, List.map_map]
    exact List.map_congr_left fun name _ => elements_eq _
  rw [expand]
  simp only [hdimensions, hnames, Product.toList_map]
  cases (Product.mk (selections declared vars)).toList with
  | error o => rfl
  | ok choices =>
      simp only [Except.map, scopeOf, List.map_map]
      rfl

/-- There is always something to choose from. -/
theorem nil_not_mem_selections : [] ∉ selections declared vars := by
  intro hnil
  obtain ⟨name, -, hempty⟩ := List.mem_map.1 hnil
  exact choosable_ne_nil _ hempty

/-- The choices can be walked over if a word can count them. -/
theorem fits_selections : (Product.mk (selections declared vars)).Fits ↔
    ((selections declared vars).map List.length).prod < 2 ^ 64 := by
  have hfits := Product.fits_iff (p := ⟨selections declared vars⟩) nil_not_mem_selections
  rwa [Product.count_eq] at hfits

/-- If a word can count the choices, there is one combination for each of them. -/
theorem expand_of_fits (hcount : ((selections declared vars).map List.length).prod < 2 ^ 64) :
    expand declared vars =
      .ok (scopeOf declared vars (Product.choices (selections declared vars))) := by
  rw [expand_eq, Product.toList_of_fits (fits_selections.2 hcount)]
  rfl

/-- If no word can count the choices, the request is not split up. -/
theorem expand_of_not_fits (hcount : 2 ^ 64 ≤ ((selections declared vars).map List.length).prod) :
    expand declared vars = .error .multiply := by
  have hfits : ¬(Product.mk (selections declared vars)).Fits := by
    rw [fits_selections, not_lt]
    exact hcount
  rw [expand_eq, Product.toList_of_not_fits hfits]
  rfl

/-- A request that is split up has one combination for each choice. -/
theorem eq_scopeOf {scope : Scope} (h : expand declared vars = .ok scope) :
    scope = scopeOf declared vars (Product.choices (selections declared vars)) := by
  by_cases hcount : ((selections declared vars).map List.length).prod < 2 ^ 64
  · rw [expand_of_fits hcount] at h
    exact (Except.ok.inj h).symm
  · rw [expand_of_not_fits (not_lt.1 hcount)] at h
    cases h

/-- The variables that are bound once are those that are not declared. -/
theorem keys_others :
    Dict.keys (others declared vars) = (visible vars).filter (· ∉ declared) := by
  rw [Dict.keys, others, visible, Dict.keys, List.map_map, List.filter_map, List.filter_map,
    List.filter_filter]
  simp [Function.comp_def, Bool.and_comm]

/-- Every variable is bound once. -/
theorem nodup_others (hkeys : (vars.map Prod.fst).Nodup) :
    ((others declared vars).map Prod.fst).Nodup := by
  refine List.Nodup.sublist ?_ hkeys
  rw [others, List.map_map]
  exact List.filter_sublist.map Prod.fst

/-- A variable that is bound once is found with its value decoded. -/
theorem get?_others {name : String} {v : ScopedVariable} (hv : Dict.get? vars name = some v)
    (hhidden : isHidden name = false) (hsingle : name ∉ declared) :
    Dict.get? (others declared vars) name = some (decode v.value) := by
  have hkept : (!isHidden name && !declared.contains name) = true := by simp [hhidden, hsingle]
  have hget := Dict.get?_filter_map vars (fun name => !isHidden name && !declared.contains name)
    (fun v => decode v.value) hkept
  rw [hv] at hget
  exact hget

/-- Every combination of the other variables binds it in the same way. -/
theorem get?_namespaces (hkeys : (vars.map Prod.fst).Nodup) {name : String} {v : ScopedVariable}
    (hv : Dict.get? vars name = some v) (hhidden : isHidden name = false)
    (hsingle : name ∉ declared) {scope : Scope} (hscope : expand declared vars = .ok scope) :
    ∀ dashboard ∈ scope.namespaces, Dict.get? dashboard name = some (decode v.value) := by
  intro dashboard hdashboard
  rw [eq_scopeOf hscope] at hdashboard
  obtain ⟨c, _, rfl⟩ := List.mem_map.1 hdashboard
  rw [scopeOf, Dict.get?_overlay (nodup_others hkeys), get?_others hv hhidden hsingle]
  rfl

/-- A choice has one value for each declared variable that the request has. -/
theorem length_choice {choice : List Json}
    (h : choice ∈ Product.choices (selections declared vars)) :
    (varied declared vars).length = choice.length := by
  rw [(Product.forall₂_of_mem_choices h).length_eq, selections, List.length_map]

/-- A combination binds the declared variables that the request has. -/
theorem mem_keys_combination {choice : List Json}
    (h : choice ∈ Product.choices (selections declared vars)) {name : String} :
    name ∈ Dict.keys (combination declared vars choice) ↔ name ∈ varied declared vars := by
  have hlength : (varied declared vars).length ≤ (choice.map decode).length := by
    rw [List.length_map]
    exact (length_choice h).le
  rw [combination, Dict.mem_keys_ofList, List.map_fst_zip hlength]

/-- What is bound once is bound in no combination. -/
theorem disjoint_keys {choice : List Json}
    (h : choice ∈ Product.choices (selections declared vars)) :
    List.Disjoint (Dict.keys (others declared vars))
      (Dict.keys (combination declared vars choice)) := by
  intro name hsingle hcombination
  rw [keys_others, List.mem_filter, decide_eq_true_iff] at hsingle
  rw [mem_keys_combination h] at hcombination
  exact hsingle.2 (List.mem_filter.1 hcombination).1

/-- The bindings for a choice are those that belong to it. -/
theorem isNamespace (hdeclared : declared.Nodup) (hvars : Dict.Ordered vars) {choice : List Json}
    (h : choice ∈ Product.choices (selections declared vars)) :
    IsNamespace declared vars choice
      (Dict.overlay (combination declared vars choice) (others declared vars)) := by
  have hsingle : ((others declared vars).map Prod.fst).Nodup := nodup_others hvars.nodup
  refine ⟨?_, ?_, ?_⟩
  · -- both lists of keys grow strictly, so it is enough that they have the same members
    refine List.Pairwise.eq_of_mem_iff
      (Dict.ordered_overlay (Dict.ordered_ofList _) _) (hvars.filter _) fun name => ?_
    rw [Dict.mem_keys_overlay, mem_keys_combination h, keys_others, varied, List.mem_filter,
      List.mem_filter, decide_eq_true_iff, decide_eq_true_iff]
    constructor
    · rintro (hname | hname)
      · exact hname.1
      · exact hname.2
    · intro hname
      by_cases hmem : name ∈ declared
      · exact .inr ⟨hmem, hname⟩
      · exact .inl ⟨hname, hmem⟩
  · refine List.forall₂_iff_zip.2 ⟨length_choice h, fun {name value} hmem => ?_⟩
    have hname : name ∈ varied declared vars := (List.of_mem_zip hmem).1
    -- nothing that is bound once lies over the chosen value
    have hother : Dict.get? (others declared vars) name = none :=
      Dict.get?_eq_none fun hkeys =>
        disjoint_keys h hkeys ((mem_keys_combination h).2 hname)
    have hentry : (name, decode value) ∈ (varied declared vars).zip (choice.map decode) := by
      rw [List.zip_map_right]
      exact List.mem_map.2 ⟨_, hmem, rfl⟩
    have hnames : (((varied declared vars).zip (choice.map decode)).map Prod.fst).Nodup := by
      rw [List.map_fst_zip (by rw [List.length_map]; exact (length_choice h).le)]
      exact hdeclared.filter _
    refine ⟨decode value, ?_, decoded_decode value⟩
    rw [Dict.get?_overlay hsingle, hother, combination, Dict.get?_ofList hnames hentry]
    rfl
  · intro name hname hmem
    obtain ⟨hhidden, v, hv⟩ := mem_visible_iff.1 hname
    refine ⟨decode v.value, ?_, ?_⟩
    · rw [Dict.get?_overlay hsingle, get?_others hv hhidden hmem]
      rfl
    · rw [valueOf, hv]
      exact decoded_decode v.value

/-- If a word can count the choices, there is one set of bindings for each of them, in their order,
and at least one. It binds the variables that are not hidden and no others: a declared one to its
chosen value, every other one to its value. What is bound once is bound in no combination. -/
theorem namespaces_exact (hdeclared : declared.Nodup) (hvars : Dict.Ordered vars)
    (hcount : ((selections declared vars).map List.length).prod < 2 ^ 64) :
    ∃ scope, expand declared vars = .ok scope ∧
      List.Forall₂ (IsNamespace declared vars) (Product.choices (selections declared vars))
        scope.namespaces ∧
      scope.namespaces ≠ [] ∧
      ∀ c ∈ scope.combinations, List.Disjoint (Dict.keys scope.single) (Dict.keys c) := by
  refine ⟨_, expand_of_fits hcount, ?_, ?_, ?_⟩
  · rw [namespaces, scopeOf, List.map_map, List.forall₂_map_right_iff, List.forall₂_same]
    exact fun choice h => isNamespace hdeclared hvars h
  · have hchoices : Product.choices (selections declared vars) ≠ [] :=
      Product.choices_ne_nil_iff.2 nil_not_mem_selections
    simpa [namespaces, scopeOf] using hchoices
  · intro c hc
    obtain ⟨choice, h, rfl⟩ := List.mem_map.1 hc
    exact disjoint_keys h

/-- A text that is written in pieces is bound as the characters that the pieces stand for. -/
theorem eq_of_decoded_str {s text : String} (pieces : List (List Char)) {bound : Json}
    (h : Decoded (.str s) bound) (hs : s.toList = pieces.flatten)
    (hpieces : List.Forall₂ Text.Written text.toList pieces) : bound = .str text := by
  cases h with
  | str hresolved =>
      rw [hs, Text.resolved_iff, Text.decodeEntityChars_flatten hpieces] at hresolved
      rw [String.toList_inj.1 hresolved]

/-- Variables of every kind: hidden ones, an array, an empty array, and an array that is not
declared. -/
def mixedVars : ScopedVars :=
  [("__from", ⟨none, .int 0⟩), ("_key", ⟨none, .str "k"⟩), ("env", ⟨none, .arr []⟩),
    ("host", ⟨none, .arr [.str "a&lt;b", .null]⟩),
    ("region", ⟨none, .arr [.null, .str "&amp;lt;"]⟩)]

/-- Two values and none to choose from make two sets of bindings, in the order of the values. What
is written as a reference is bound as its character, once. -/
theorem namespaces_mixed :
    ["host", "_key", "zone", "env"].Nodup ∧ Dict.Ordered mixedVars ∧
    ((selections ["host", "_key", "zone", "env"] mixedVars).map List.length).prod < 2 ^ 64 ∧
    ∃ scope first second, expand ["host", "_key", "zone", "env"] mixedVars = .ok scope ∧
      scope.namespaces = [first, second] ∧
      Dict.keys first = ["env", "host", "region"] ∧ Dict.keys second = ["env", "host", "region"] ∧
      Dict.get? first "host" = some (.str "a<b") ∧ Dict.get? second "host" = some (.str "") ∧
      Dict.get? first "env" = some (.str "") ∧
      Dict.get? second "region" = some (.arr [.str "", .str "&lt;"]) := by
  have hdeclared : ["host", "_key", "zone", "env"].Nodup := by decide
  have hvars : Dict.Ordered mixedVars := by
    unfold Dict.Ordered
    decide
  have hcount : ((selections ["host", "_key", "zone", "env"] mixedVars).map List.length).prod <
      2 ^ 64 := by decide
  obtain ⟨scope, hscope, hnamespaces, -, -⟩ := namespaces_exact hdeclared hvars hcount
  have hchoices : Product.choices (selections ["host", "_key", "zone", "env"] mixedVars) =
      [[.str "a&lt;b", .str ""], [.null, .str ""]] := rfl
  have hvaried : varied ["host", "_key", "zone", "env"] mixedVars = ["host", "env"] := by decide
  have hvisible : visible mixedVars = ["env", "host", "region"] := by decide
  generalize hall : scope.namespaces = all at hnamespaces
  rw [hchoices] at hnamespaces
  obtain _ | ⟨hfirst, _ | ⟨hsecond, _ | _⟩⟩ := hnamespaces
  obtain ⟨hkeys, hchosen, -⟩ := hfirst
  obtain ⟨hkeys', hchosen', hwhole⟩ := hsecond
  rw [hvaried] at hchosen hchosen'
  obtain _ | ⟨⟨host, hhost, hdecoded⟩, _ | ⟨⟨env, henv, hempty⟩, _⟩⟩ := hchosen
  obtain _ | ⟨⟨host', hhost', hnull⟩, _⟩ := hchosen'
  obtain ⟨region, hregion, hdecoded'⟩ := hwhole "region" (by rw [hvisible]; decide) (by decide)
  have hregionValue : valueOf mixedVars "region" = .arr [.null, .str "&amp;lt;"] := rfl
  rw [hregionValue] at hdecoded'
  cases hnull
  have hhostText : host = .str "a<b" := by
    refine eq_of_decoded_str [['a'], ['&', 'l', 't', ';'], ['b']] hdecoded rfl ?_
    refine .cons (.plain (by decide)) (.cons (.reference (.named "lt" (by decide))) ?_)
    exact .cons (.plain (by decide)) .nil
  have henvText : env = .str "" := eq_of_decoded_str [] hempty rfl .nil
  have hregionItems : region = .arr [.str "", .str "&lt;"] := by
    have hpieces : List.Forall₂ Text.Written "&lt;".toList
        [['&', 'a', 'm', 'p', ';'], ['l'], ['t'], [';']] := by
      refine .cons (.reference (.named "amp" (by decide))) (.cons (.plain (by decide)) ?_)
      exact .cons (.plain (by decide)) (.cons (.plain (by decide)) .nil)
    cases hdecoded' with
    | arr hitems =>
        obtain _ | ⟨hitem, _ | ⟨hitem', _ | _⟩⟩ := hitems
        cases hitem
        rw [eq_of_decoded_str _ hitem' rfl hpieces]
  subst hhostText henvText hregionItems
  refine ⟨hdeclared, hvars, hcount, scope, _, _, hscope, hall, hkeys.trans hvisible,
    hkeys'.trans hvisible, hhost, hhost', henv, hregion⟩

end SeriesQuery.Scope
