import SeriesQuery.Proofs.Query.Combinations
import SeriesQuery.Proofs.Query.Compile
import SeriesQuery.Proofs.Results

/-!
# Bindings that come twice

The names of the setting are used as they are written, so a name may be declared again. Its values
are then chosen once for each time that it is declared, but only the last of them is bound. So the
bindings of a request differ, and no plan is made twice, exactly as long as no variable of several
values is declared again: `Scope.namespaces_apart`.
-/

namespace SeriesQuery

/-- Two values are not the same. -/
def Json.Apart (a b : Json) : Prop := Json.same a b = false

namespace Json

/-- What is found in an object is found, with the same value, in an object that is the same. -/
theorem exists_get?_of_sameFields {fields fields' : Fields} (h : sameFields fields fields' = true)
    {key : String} {value : Json} (hget : Dict.get? fields key = some value) :
    ∃ value', Dict.get? fields' key = some value' ∧ same value value' = true := by
  induction fields generalizing fields' with
  | nil => cases hget
  | cons field fields ih =>
      obtain ⟨j, a⟩ := field
      cases fields' with
      | nil => cases h
      | cons field' fields' =>
          obtain ⟨k, b⟩ := field'
          obtain ⟨hfirst, hrest⟩ := Bool.and_eq_true_iff.1 h
          obtain ⟨hkey, hvalue⟩ := Bool.and_eq_true_iff.1 hfirst
          obtain rfl := beq_iff_eq.1 hkey
          rw [Dict.get?] at hget
          rw [Dict.get?]
          by_cases hj : j = key
          · rw [if_pos hj] at hget
            cases hget
            exact ⟨b, if_pos hj, hvalue⟩
          · rw [if_neg hj] at hget
            rw [if_neg hj]
            exact ih hrest hget

/-- Objects that have values under one key that are apart are apart. -/
theorem apart_of_get? {fields fields' : Fields} {key : String} {a b : Json}
    (ha : Dict.get? fields key = some a) (hb : Dict.get? fields' key = some b) (hab : Apart a b) :
    Apart (.obj fields) (.obj fields') := by
  refine Bool.eq_false_iff.2 fun hsame => ?_
  obtain ⟨b', hb', hvalue⟩ := exists_get?_of_sameFields hsame ha
  obtain rfl := Option.some.inj (hb.symm.trans hb')
  cases hab.symm.trans hvalue

end Json

namespace Scope

section Specification

variable (declared : List String) (vars : ScopedVars)

/-- A variable of several values that the request has is declared again. -/
def DeclaredAgain : Prop :=
  ∃ name ∈ visible vars, 1 < declared.count name ∧ 1 < (choosable (valueOf vars name)).length

end Specification

variable {declared : List String} {vars : ScopedVars}

/-- The bindings of a choice: its combination with what is bound once over it. -/
def bindingsOf (declared : List String) (vars : ScopedVars) (choice : List Json) : Fields :=
  Dict.overlay (combination declared vars choice) (others declared vars)

/-- A request that is split up has bindings for each choice. -/
theorem namespaces_eq {scope : Scope} (h : expand declared vars = .ok scope) :
    scope.namespaces =
      (Product.choices (selections declared vars)).map (bindingsOf declared vars) := by
  rw [eq_scopeOf h]
  exact List.map_map

/-- A choice, cut at one of its values, with the names that its values are chosen for. -/
theorem zip_choice {names before after : List String} {name : String}
    (hnames : names = before ++ name :: after) {as : List Json}
    (hlength : before.length = as.length) (a : Json) (bs : List Json) :
    names.zip ((as ++ a :: bs).map decode) =
      before.zip (as.map decode) ++ (name, decode a) :: after.zip (bs.map decode) := by
  rw [hnames, List.map_append, List.zip_append (by rw [List.length_map, hlength])]
  rfl

section Names

variable {before after : List String} {name : String}
  (hvaried : varied declared vars = before ++ name :: after) {as : List Json}
  (hlength : before.length = as.length)

include hvaried hlength

/-- A name that is not declared again is bound to the value that is chosen for it. -/
theorem get?_bindingsOf (hafter : name ∉ after) (a : Json) (bs : List Json) :
    Dict.get? (bindingsOf declared vars (as ++ a :: bs)) name = some (decode a) := by
  have hdeclared : name ∈ declared := by
    have hmem : name ∈ varied declared vars := by
      rw [hvaried]
      exact List.mem_append_right _ List.mem_cons_self
    exact (List.mem_filter.1 hmem).1
  have hsingle : name ∉ Dict.keys (others declared vars) := by
    rw [keys_others, List.mem_filter, decide_eq_true_iff]
    exact fun h => h.2 hdeclared
  have hover : Dict.get? (others declared vars).reverse name = none := by
    refine Dict.get?_eq_none ?_
    rw [List.map_reverse, List.mem_reverse]
    exact hsingle
  have hlast : name ∉ (after.zip (bs.map decode)).map Prod.fst := by
    intro hmem
    obtain ⟨⟨_, value⟩, hentry, rfl⟩ := List.mem_map.1 hmem
    exact hafter (List.of_mem_zip hentry).1
  rw [bindingsOf, Dict.get?_overlay_reverse, hover, Option.none_or, combination,
    zip_choice hvaried hlength, Dict.get?_ofList_last hlast]

/-- What is chosen for a name that is declared again later is not bound. -/
theorem bindingsOf_overwritten (hafter : name ∈ after) {bs : List Json}
    (hlater : after.length = bs.length) (a b : Json) :
    bindingsOf declared vars (as ++ a :: bs) = bindingsOf declared vars (as ++ b :: bs) := by
  have hagain : name ∈ (after.zip (bs.map decode)).map Prod.fst := by
    rw [List.map_fst_zip (by rw [List.length_map, hlater])]
    exact hafter
  rw [bindingsOf, combination, zip_choice hvaried hlength, Dict.ofList_overwritten hagain,
    ← Dict.ofList_overwritten hagain _ (decode b), ← zip_choice hvaried hlength]
  rfl

end Names

/-- Of two choices for some names there is a first name for which they differ. -/
theorem exists_of_earlier {names : List String} {values : String → List Json} {as bs : List Json}
    (h : Product.Earlier (names.map values) as bs) :
    ∃ before name after xs a ys b zs, names = before ++ name :: after ∧
      before.length = xs.length ∧ as = xs ++ a :: ys ∧ bs = xs ++ b :: zs ∧
      [a, b].Sublist (values name) := by
  induction names generalizing as bs with
  | nil => cases h
  | cons name names ih =>
      cases h with
      | here hab => exact ⟨[], name, names, [], _, _, _, _, rfl, rfl, rfl, rfl, hab⟩
      | there h =>
          obtain ⟨before, other, after, xs, a, ys, b, zs, rfl, hlength, rfl, rfl, hab⟩ := ih h
          exact ⟨name :: before, other, after, _ :: xs, a, ys, b, zs, rfl,
            congrArg (· + 1) hlength, rfl, rfl, hab⟩

/-- A name of the request is declared as often as it is among the declared names that the request
has. -/
theorem count_varied {name : String} (h : name ∈ visible vars) :
    (varied declared vars).count name = declared.count name :=
  List.count_filter (decide_eq_true h)

/-- Where values are apart and no variable of several values is declared again, the bindings of two
choices are apart. -/
theorem apart_bindingsOf
    (hdistinct : ∀ name ∈ varied declared vars,
      (elements (valueOf vars name)).Pairwise Json.Apart)
    (hagain : ¬DeclaredAgain declared vars) {as bs : List Json}
    (h : Product.Earlier (selections declared vars) as bs) :
    Json.Apart (.obj (bindingsOf declared vars as)) (.obj (bindingsOf declared vars bs)) := by
  obtain ⟨before, name, after, xs, a, ys, b, zs, hvaried, hlength, rfl, rfl, hab⟩ :=
    exists_of_earlier h
  have hname : name ∈ varied declared vars := by
    rw [hvaried]
    exact List.mem_append_right _ List.mem_cons_self
  have hvisible : name ∈ visible vars := of_decide_eq_true (List.mem_filter.1 hname).2
  have hafter : name ∉ after := by
    intro hmem
    refine hagain ⟨name, hvisible, ?_, hab.length_le⟩
    rw [← count_varied hvisible, hvaried, List.count_append, List.count_cons_self]
    have hpos : 0 < after.count name := List.count_pos_iff.2 hmem
    omega
  have hvalues := hdistinct name hname
  rw [elements_eq, List.pairwise_map, List.pairwise_iff_forall_sublist] at hvalues
  exact Json.apart_of_get? (get?_bindingsOf hvaried hlength hafter a ys)
    (get?_bindingsOf hvaried hlength hafter b zs) (hvalues hab)

/-- There is a choice for every list of names. -/
theorem exists_choice (vars : ScopedVars) (names : List String) :
    ∃ choice, choice ∈ Product.choices (names.map fun name => choosable (valueOf vars name)) := by
  refine List.exists_mem_of_ne_nil _ (Product.choices_ne_nil_iff.2 fun hempty => ?_)
  obtain ⟨name, -, hname⟩ := List.mem_map.1 hempty
  exact choosable_ne_nil _ hname

/-- Where a variable of several values is declared again, two choices have the same bindings. -/
theorem exists_same_bindings (h : DeclaredAgain declared vars) :
    ∃ as bs, [as, bs].Sublist (Product.choices (selections declared vars)) ∧
      bindingsOf declared vars as = bindingsOf declared vars bs := by
  obtain ⟨name, hvisible, hcount, hvalues⟩ := h
  rw [← count_varied hvisible] at hcount
  have hname : name ∈ varied declared vars := List.count_pos_iff.1 (Nat.zero_lt_of_lt hcount)
  -- the values for the first time that it is declared are not bound
  obtain ⟨before, after, hvaried, hbefore⟩ := List.eq_append_cons_of_mem hname
  have hafter : name ∈ after := by
    rw [hvaried, List.count_append, List.count_cons_self, List.count_eq_zero_of_not_mem hbefore]
      at hcount
    exact List.count_pos_iff.1 (by omega)
  obtain ⟨a, b, rest, hab⟩ : ∃ a b rest, choosable (valueOf vars name) = a :: b :: rest := by
    match hlist : choosable (valueOf vars name), hvalues with
    | a :: b :: rest, _ => exact ⟨a, b, rest, rfl⟩
  obtain ⟨as, has⟩ := exists_choice vars before
  obtain ⟨bs, hbs⟩ := exists_choice vars after
  have hlength : before.length = as.length := by
    rw [(Product.forall₂_of_mem_choices has).length_eq, List.length_map]
  have hlater : after.length = bs.length := by
    rw [(Product.forall₂_of_mem_choices hbs).length_eq, List.length_map]
  refine ⟨as ++ a :: bs, as ++ b :: bs, ?_,
    bindingsOf_overwritten hvaried hlength hafter hlater a b⟩
  have hpair : [a, b].Sublist (choosable (valueOf vars name)) := by
    rw [hab]
    exact ((List.nil_sublist rest).cons_cons b).cons_cons a
  rw [selections, hvaried, List.map_append, List.map_cons]
  exact Product.sublist_choices hpair has hbs

section Plans

variable {params : QueryParams} {d : Definition} {q : TargetQuery} {namespaces : List Fields}
  {plans : List PlannedTarget}

/-- The plans for bindings that are apart have layered bindings that are apart. -/
theorem apart_plans (hplans : Runner.planTarget params namespaces d q = .ok plans)
    (h : (namespaces.map Json.obj).Pairwise Json.Apart) :
    (plans.map fun p => Json.obj p.origin.bindings).Pairwise Json.Apart := by
  have hok : namespaces.map (Runner.planOne params d q) = plans.map .ok :=
    map_eq_of_mapM_ok hplans
  have hresults : (namespaces.map (Runner.planOne params d q)).Pairwise fun x y =>
      ∀ p p', x = .ok p → y = .ok p' →
        Json.Apart (.obj p.origin.bindings) (.obj p'.origin.bindings) := by
    rw [List.pairwise_map] at h ⊢
    refine h.imp fun {dashboard dashboard'} hapart p p' hp hp' => ?_
    have hlayer : ∀ bindings, Dict.get? (layerBindings d q.data bindings) "grafana" =
        some (.obj bindings) := by
      intro bindings
      rw [layerBindings, Dict.get?_insert, if_pos rfl]
    rw [(planOne_ok hp).2, (planOne_ok hp').2]
    exact Json.apart_of_get? (hlayer dashboard) (hlayer dashboard') hapart
  rw [hok, List.pairwise_map] at hresults
  rw [List.pairwise_map]
  exact hresults.imp fun h => h _ _ rfl rfl

/-- Where bindings come twice, a plan is made twice. -/
theorem not_nodup_plans (hplans : Runner.planTarget params namespaces d q = .ok plans)
    (h : ¬namespaces.Nodup) : ¬plans.Nodup := by
  intro hnodup
  have hok : namespaces.map (Runner.planOne params d q) = plans.map .ok :=
    map_eq_of_mapM_ok hplans
  have hresults : (plans.map (Except.ok (ε := QueryError))).Nodup :=
    hnodup.map fun _ _ => Except.ok.inj
  rw [← hok] at hresults
  exact h hresults.of_map

end Plans

/-- Where the values of each declared variable are apart: if no variable of several values is
declared again, the bindings of a request are apart, and so are those that the plans of a target are
made with; otherwise some bindings come twice, and every target has a plan that is made twice. There
are bindings exactly if a word can count the choices. -/
theorem namespaces_apart (setting : Option String) (vars : ScopedVars)
    (hdistinct : ∀ name ∈ varied (namesOf setting) vars,
      (elements (valueOf vars name)).Pairwise Json.Apart) :
    let declared := namesOf setting
    (¬DeclaredAgain declared vars → ∀ scope, expand declared vars = .ok scope →
      (scope.namespaces.map Json.obj).Pairwise Json.Apart ∧
      ∀ params d q plans, Runner.planTarget params scope.namespaces d q = .ok plans →
        (plans.map fun p => Json.obj p.origin.bindings).Pairwise Json.Apart) ∧
    (DeclaredAgain declared vars → ∀ scope, expand declared vars = .ok scope →
      ¬scope.namespaces.Nodup ∧
      ∀ params d q plans, Runner.planTarget params scope.namespaces d q = .ok plans →
        ¬plans.Nodup) ∧
    ((∃ scope, expand declared vars = .ok scope ∧ scope.namespaces ≠ []) ↔
      ((selections declared vars).map List.length).prod < 2 ^ 64) ∧
    (expand declared vars = .error .multiply ↔
      2 ^ 64 ≤ ((selections declared vars).map List.length).prod) := by
  intro declared
  refine ⟨fun hagain scope hscope => ?_, fun hagain scope hscope => ?_, ?_, expand_eq_error_iff⟩
  · have hapart : (scope.namespaces.map Json.obj).Pairwise Json.Apart := by
      rw [namespaces_eq hscope, List.map_map, List.pairwise_map]
      exact (Product.pairwise_choices _).imp fun h => apart_bindingsOf hdistinct hagain h
    exact ⟨hapart, fun params d q plans hplans => apart_plans hplans hapart⟩
  · obtain ⟨as, bs, hchoices, hsame⟩ := exists_same_bindings hagain
    have htwice : ¬scope.namespaces.Nodup := by
      rw [namespaces_eq hscope]
      intro hnodup
      have hpair := hnodup.sublist (hchoices.map (bindingsOf declared vars))
      rw [List.map_cons, List.map_cons, hsame] at hpair
      exact (List.nodup_cons.1 hpair).1 List.mem_cons_self
    exact ⟨htwice, fun params d q plans hplans => not_nodup_plans hplans htwice⟩
  · simp only [namespaces, Ne, List.map_eq_nil_iff]
    exact expand_ne_nil_iff

/-- A variable of a single value, and one of two values. -/
def twoShards : ScopedVars :=
  [("region", ⟨none, .int 9⟩), ("shard", ⟨none, .arr [.int 1, .int 2]⟩)]

/-- A variable of a single value may be declared again: its choices are one. -/
theorem namespaces_apart_region :
    (∀ name ∈ varied (namesOf (some "shard, region,region")) twoShards,
      (elements (valueOf twoShards name)).Pairwise Json.Apart) ∧
    ¬DeclaredAgain (namesOf (some "shard, region,region")) twoShards ∧
    ∃ scope, expand (namesOf (some "shard, region,region")) twoShards = .ok scope ∧
      scope.namespaces.length = 2 ∧ (scope.namespaces.map Json.obj).Pairwise Json.Apart := by
  have hnames : namesOf (some "shard, region,region") = ["shard", "region", "region"] := by decide
  have hdistinct : ∀ name ∈ varied (namesOf (some "shard, region,region")) twoShards,
      (elements (valueOf twoShards name)).Pairwise Json.Apart := by
    rw [hnames]
    unfold Json.Apart
    decide
  have hagain : ¬DeclaredAgain (namesOf (some "shard, region,region")) twoShards := by
    rw [hnames]
    unfold DeclaredAgain
    decide
  obtain ⟨hapart, -, hcount, -⟩ :=
    namespaces_apart (some "shard, region,region") twoShards hdistinct
  obtain ⟨scope, hscope, -⟩ := hcount.2 (by rw [hnames]; decide)
  refine ⟨hdistinct, hagain, scope, hscope, ?_, (hapart hagain scope hscope).1⟩
  rw [namespaces_eq hscope, List.length_map, Product.length_choices, hnames]
  decide

/-- A variable of two values that is declared twice makes four sets of bindings, of which only two
are apart. -/
theorem shard_declared_twice :
    (∀ name ∈ varied (namesOf (some "shard,shard")) twoShards,
      (elements (valueOf twoShards name)).Pairwise Json.Apart) ∧
    ∃ scope, expand (namesOf (some "shard,shard")) twoShards = .ok scope ∧
      scope.namespaces =
        [[("region", .int 9), ("shard", .int 1)], [("region", .int 9), ("shard", .int 2)],
          [("region", .int 9), ("shard", .int 1)], [("region", .int 9), ("shard", .int 2)]] ∧
      ¬(scope.namespaces.map Json.obj).Pairwise Json.Apart := by
  have hnames : namesOf (some "shard,shard") = ["shard", "shard"] := by decide
  have hscope : expand (namesOf (some "shard,shard")) twoShards =
      .ok (scopeOf ["shard", "shard"] twoShards
        (Product.choices (selections ["shard", "shard"] twoShards))) := by
    rw [hnames]
    exact expand_of_fits (by decide)
  refine ⟨?_, _, hscope, rfl, ?_⟩
  · rw [hnames]
    unfold Json.Apart
    decide
  · unfold Json.Apart
    decide

end Scope

end SeriesQuery
