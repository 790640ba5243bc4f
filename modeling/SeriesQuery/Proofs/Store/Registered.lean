import SeriesQuery.Proofs.Dict
import SeriesQuery.Proofs.Store.History
import SeriesQuery.Proofs.Text.Runs

/-!
# Registered queries

A query is registered under its text as it is, and asked for without the blanks at its ends. So the
rows that are found for a text are those of the last registration of the trimmed text, and a text
that is registered with blanks at its ends is not found under any text: `runText_registered`.
-/

namespace SeriesQuery.MemoryStore

/-- The text and the rows that a call registers, if it registers any. -/
def Call.registration? : Call → Option (String × List Json)
  | register text rows => some (text, rows)
  | _ => none

/-- What calls register, in their order. -/
def registrations (calls : List Call) : List (String × List Json) :=
  calls.filterMap Call.registration?

/-- Of the registrations whose text has a property, the last one is of a text and its rows. -/
def LastRegistered (p : String → Prop) (registered : List (String × List Json)) (text : String)
    (rows : List Json) : Prop :=
  ∃ earlier later, registered = earlier ++ (text, rows) :: later ∧ p text ∧
    ∀ r ∈ later, ¬ p r.1

variable {registered : List (String × List Json)} {text : String} {rows : List Json}

/-- A call changes the results by what it registers only. -/
theorem results_apply (call : Call) (s : MemoryStore) :
    (call.apply s).results = Dict.overlay s.results call.registration?.toList := by
  cases call with
  | create name =>
      show (s.create name).results = s.results
      rw [create]
      split <;> rfl
  | insert name doc =>
      show (insert name doc s).2.results = s.results
      rw [insert_eq, insertMany]
      split <;> rfl
  | insertMany name docs =>
      show (insertMany name docs s).2.results = s.results
      rw [insertMany]
      split <;> rfl
  | register text rows => rfl
  | query r params =>
      show (r.query operations params s).2.results = s.results
      rw [(query_cases r params s).1]

/-- Calls leave the results with what they register laid over them, one after the other. -/
theorem results_after (calls : List Call) (s : MemoryStore) :
    (after calls s).results = Dict.overlay s.results (registrations calls) := by
  induction calls generalizing s with
  | nil => rfl
  | cons call calls ih =>
      have hstep : (after (call :: calls) s).results = (after calls (call.apply s)).results := rfl
      rw [hstep, ih, results_apply, registrations, registrations, List.filterMap_cons]
      cases call.registration? <;> rfl

/-- The last registration of a text is the first one from the end. -/
theorem get?_reverse_eq_some_iff {key : String} :
    Dict.get? registered.reverse key = some rows ↔
      LastRegistered (· = key) registered key rows := by
  rw [Dict.get?_eq_some_iff]
  constructor
  · rintro ⟨before, after, heq, hbefore⟩
    refine ⟨after.reverse, before.reverse, ?_, rfl, fun r hr => hbefore r (List.mem_reverse.1 hr)⟩
    rw [← List.reverse_reverse registered, heq]
    simp
  · rintro ⟨earlier, later, rfl, -, hlater⟩
    exact ⟨later.reverse, earlier.reverse, by simp, fun r hr => hlater r (List.mem_reverse.1 hr)⟩

/-- No text is found exactly if it was not registered. -/
theorem get?_reverse_eq_none_iff {key : String} :
    Dict.get? registered.reverse key = none ↔ ∀ r ∈ registered, r.1 ≠ key := by
  rw [← Option.not_isSome_iff_eq_none, Dict.isSome_get?_iff, Dict.keys,
    List.map_reverse, List.mem_reverse, List.mem_map]
  constructor
  · intro h r hr hkey
    exact h ⟨r, hr, hkey⟩
  · rintro h ⟨r, hr, hkey⟩
    exact h r hr hkey

section Answers

variable (collections : Dict (List Json)) (calls : List Call) (query : String)

/-- What a store that starts without results answers after calls. -/
theorem runText_after :
    (after calls ⟨collections, []⟩).runText query =
      match Dict.get? (registrations calls).reverse (Text.trim query) with
      | some rows => .ok rows
      | none => .error (.unsupported query) := by
  have hnone : Dict.get? (⟨collections, []⟩ : MemoryStore).results (Text.trim query) = none := rfl
  have hrun (store : MemoryStore) : store.runText query =
      match Dict.get? store.results (Text.trim query) with
      | some rows => .ok rows
      | none => .error (.unsupported query) := rfl
  rw [hrun, results_after, Dict.get?_overlay_reverse, hnone, Option.or_none]

/-- The rows for a text are those of the last registration of the trimmed text. -/
theorem runText_eq_ok_iff :
    (after calls ⟨collections, []⟩).runText query = .ok rows ↔
      LastRegistered (· = Text.trim query) (registrations calls) (Text.trim query) rows := by
  rw [runText_after, ← get?_reverse_eq_some_iff]
  cases Dict.get? (registrations calls).reverse (Text.trim query) with
  | some found => simp
  | none => simp

/-- A text is refused exactly if the trimmed text is not registered. -/
theorem runText_eq_error_iff {e : StoreError} :
    (after calls ⟨collections, []⟩).runText query = .error e ↔
      e = .unsupported query ∧ ∀ r ∈ registrations calls, r.1 ≠ Text.trim query := by
  rw [runText_after, ← get?_reverse_eq_none_iff]
  cases Dict.get? (registrations calls).reverse (Text.trim query) with
  | some found => simp
  | none =>
      constructor
      · rintro ⟨⟩
        exact ⟨rfl, rfl⟩
      · rintro ⟨rfl, -⟩
        rfl

/-- A store that starts without results answers a text, after any calls, with the rows of the last
registration of the trimmed text, and refuses it where the trimmed text is not registered. So the
last registration of a text up to the blanks at its ends is the one that answers if it has none
there, and registrations with blanks at their ends never answer. Where no text is registered with
blanks at its ends, blanks at the ends make no difference at all. -/
theorem runText_registered :
    (∀ rows, (after calls ⟨collections, []⟩).runText query = .ok rows ↔
      LastRegistered (· = Text.trim query) (registrations calls) (Text.trim query) rows) ∧
    (∀ e, (after calls ⟨collections, []⟩).runText query = .error e ↔
      e = .unsupported query ∧ ∀ r ∈ registrations calls, r.1 ≠ Text.trim query) ∧
    (∀ text rows,
      LastRegistered (Text.trim · = Text.trim query) (registrations calls) text rows →
      Text.trim text = text → (after calls ⟨collections, []⟩).runText query = .ok rows) ∧
    ((∀ r ∈ registrations calls, Text.trim r.1 = Text.trim query → Text.trim r.1 ≠ r.1) →
      (after calls ⟨collections, []⟩).runText query = .error (.unsupported query)) ∧
    ((∀ r ∈ registrations calls, Text.trim r.1 = r.1) →
      (∀ rows, (after calls ⟨collections, []⟩).runText query = .ok rows ↔
        ∃ text, LastRegistered (Text.trim · = Text.trim query) (registrations calls) text rows) ∧
      ∀ e, (after calls ⟨collections, []⟩).runText query = .error e ↔
        e = .unsupported query ∧
          ∀ r ∈ registrations calls, Text.trim r.1 ≠ Text.trim query) := by
  refine ⟨fun rows => runText_eq_ok_iff collections calls query,
    fun e => runText_eq_error_iff collections calls query, ?_, ?_, ?_⟩
  · rintro text rows ⟨earlier, later, heq, hsame, hlater⟩ htext
    obtain rfl : text = Text.trim query := htext.symm.trans hsame
    rw [runText_eq_ok_iff]
    refine ⟨earlier, later, heq, rfl, fun r hr hkey => hlater r hr ?_⟩
    show Text.trim r.1 = Text.trim query
    rw [show r.1 = Text.trim query from hkey, Text.trim_trim]
  · intro hblanks
    rw [runText_eq_error_iff]
    refine ⟨rfl, fun r hr hkey => ?_⟩
    have htrimmed : Text.trim r.1 = r.1 := by rw [hkey, Text.trim_trim]
    exact hblanks r hr (htrimmed.trans hkey) htrimmed
  · intro htrimmed
    -- without blanks at their ends, texts are the same up to blanks only if they are the same
    have hsame (r) (hr : r ∈ registrations calls) :
        Text.trim r.1 = Text.trim query ↔ r.1 = Text.trim query := by rw [htrimmed r hr]
    constructor
    · intro rows
      rw [runText_eq_ok_iff]
      constructor
      · rintro ⟨earlier, later, heq, -, hlater⟩
        refine ⟨_, earlier, later, heq, Text.trim_trim query, fun r hr => ?_⟩
        exact mt (hsame r (by rw [heq]; simp [hr])).1 (hlater r hr)
      · rintro ⟨text, earlier, later, heq, hkey, hlater⟩
        obtain rfl : text = Text.trim query := (hsame (text, rows) (by rw [heq]; simp)).1 hkey
        refine ⟨earlier, later, heq, rfl, fun r hr => ?_⟩
        exact mt (hsame r (by rw [heq]; simp [hr])).2 (hlater r hr)
    · intro e
      rw [runText_eq_error_iff]
      exact and_congr_right fun _ => forall₂_congr fun r hr => not_congr (hsame r hr).symm

end Answers

/-- A text that is registered twice, with a collection created in between. -/
def twiceRegistered : List Call :=
  [.register "RETURN 1" [.nat 1], .create "cpu", .register "RETURN 1" [.nat 2]]

/-- A text that is registered twice has the rows of the second time, with blanks around it too. -/
theorem runText_registered_twice :
    LastRegistered (Text.trim · = Text.trim " RETURN 1\n") (registrations twiceRegistered)
      "RETURN 1" [.nat 2] ∧
    Text.trim "RETURN 1" = "RETURN 1" ∧
    (after twiceRegistered empty).runText " RETURN 1\n" = .ok [.nat 2] := by
  have hlast : LastRegistered (Text.trim · = Text.trim " RETURN 1\n")
      (registrations twiceRegistered) "RETURN 1" [.nat 2] :=
    ⟨[("RETURN 1", [.nat 1])], [], rfl, by decide +kernel, by simp⟩
  have htrim : Text.trim "RETURN 1" = "RETURN 1" := by decide +kernel
  obtain ⟨-, -, hanswers, -⟩ := runText_registered [] twiceRegistered " RETURN 1\n"
  exact ⟨hlast, htrim, hanswers _ _ hlast htrim⟩

/-- A text that is registered with a line end is the last one of its kind, and not found as it was
registered. -/
theorem text_with_line_end_missing :
    LastRegistered (Text.trim · = Text.trim "RETURN 1\n")
      (registrations [.register "RETURN 1\n" [.nat 1]]) "RETURN 1\n" [.nat 1] ∧
    (after [.register "RETURN 1\n" [.nat 1]] empty).runText "RETURN 1\n" =
      .error (.unsupported "RETURN 1\n") := by
  refine ⟨⟨[], [], rfl, rfl, by simp⟩, ?_⟩
  have hcollections : (empty : MemoryStore) = ⟨[], []⟩ := rfl
  rw [hcollections, runText_eq_error_iff]
  refine ⟨rfl, fun r hr => ?_⟩
  obtain rfl : r = ("RETURN 1\n", [.nat 1]) := List.mem_singleton.1 hr
  show "RETURN 1\n" ≠ Text.trim "RETURN 1\n"
  decide +kernel

end SeriesQuery.MemoryStore
