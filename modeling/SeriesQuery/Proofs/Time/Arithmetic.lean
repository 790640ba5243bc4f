import Mathlib.Tactic.GCongr
import SeriesQuery.Api.Request
import SeriesQuery.Cli
import SeriesQuery.Proofs.Text.Digits
import SeriesQuery.Proofs.Text.Runs

/-!
# Times as 64-bit words

Times are computed with as words, so a time that is relative to another one, or the length of a
range, is exact if every step to it is a word. `time_arithmetic` says what happens otherwise: an
amount that is itself no word is refused, and at a product or a difference that is no word the
program is broken off.
-/

namespace SeriesQuery

/-! ### Words -/

/-- The words are the integers of 64 bits with a sign. -/
theorem isWord_iff {t : ℤ} : IsWord t ↔ -2 ^ 63 ≤ t ∧ t < 2 ^ 63 := by
  have hmin : Int64.minValue.toInt = -2 ^ 63 := rfl
  have hmax : Int64.maxValue.toInt = 2 ^ 63 - 1 := rfl
  rw [IsWord, hmin, hmax, Int.le_sub_one_iff]

/-- The result of an operation is exact where it is a word. -/
theorem Overflow.check_of_isWord (o : Overflow) {t : ℤ} (h : IsWord t) :
    ∃ w, o.check t = .ok w ∧ w.toInt = t := by
  obtain ⟨hmin, hmax⟩ := isWord_iff.1 h
  exact ⟨_, if_pos h, Int64.toInt_ofInt_of_le hmin hmax⟩

/-- Where it is none, the operation overflows. -/
theorem Overflow.check_of_not_isWord (o : Overflow) {t : ℤ} (h : ¬IsWord t) :
    o.check t = .error o :=
  if_neg h

namespace TimeBound

/-- The units of time and their lengths in milliseconds. -/
def units : List (Char × ℤ) :=
  [('s', 1000), ('m', 60000), ('h', 3600000), ('d', 86400000), ('w', 604800000)]

/-- The text for a time some units before the present. -/
def beforeNow (ds : List Char) (unit : Char) : String :=
  String.ofList ("now-".toList ++ (ds ++ [unit]))

/-- A unit is known with its length, and is no digit. -/
theorem unit?_of_mem {unit : Char} {ms : ℤ} (h : (unit, ms) ∈ units) :
    unit? unit = some (Int64.ofInt ms) ∧ Text.isDecimalDigit unit = false ∧ 1000 ≤ ms ∧
      ms ≤ 604800000 := by
  simp only [units, List.mem_cons, List.not_mem_nil, or_false, Prod.mk.injEq] at h
  rcases h with ⟨rfl, rfl⟩ | ⟨rfl, rfl⟩ | ⟨rfl, rfl⟩ | ⟨rfl, rfl⟩ | ⟨rfl, rfl⟩ <;>
    exact ⟨by decide, by decide, by decide, by decide⟩

/-- An amount that is no word in milliseconds overflows. -/
theorem before_of_not_isWord (now : Int64) {amount ms : Int64}
    (h : ¬IsWord (amount.toInt * ms.toInt)) : before now amount ms = .error .multiply := by
  rw [before, Word.mul, Overflow.check_of_not_isWord _ h]
  rfl

/-- One that is a word is subtracted. -/
theorem before_of_isWord (now : Int64) {amount ms : Int64}
    (h : IsWord (amount.toInt * ms.toInt)) :
    before now amount ms = Overflow.subtract.check (now.toInt - amount.toInt * ms.toInt) := by
  obtain ⟨span, hok, hspan⟩ := Overflow.multiply.check_of_isWord h
  rw [before, Word.mul, hok, ← hspan]
  rfl

/-- A text for a time before the present is read by its amount and its unit. -/
theorem relative_beforeNow (now : Int64) {ds : List Char} {unit : Char} {ms : ℤ} (hne : ds ≠ [])
    (hds : ds.all Text.isDecimalDigit = true) (hunit : (unit, ms) ∈ units) :
    relative now (beforeNow ds unit) =
      if ds.all Text.isAsciiDigit ∧ Text.natOfDigits ds < 2 ^ 63 then
        (before now (Int64.ofInt (Text.natOfDigits ds)) (Int64.ofInt ms)).mapError
          RequestError.overflow
      else .error .badAmount := by
  obtain ⟨hknown, hdigit, -⟩ := unit?_of_mem hunit
  have htext : (beforeNow ds unit).toList = 'n' :: 'o' :: 'w' :: '-' :: (ds ++ [unit]) :=
    String.toList_ofList
  have hnow : beforeNow ds unit ≠ "now" := by
    intro h
    rw [h] at htext
    exact absurd htext (by simp)
  have hrun : (ds ++ [unit]).takeWhile Text.isDecimalDigit = ds :=
    (Text.takeWhile_run hds (by simpa using hdigit)).1
  have hafter : Text.after? "now-".toList (beforeNow ds unit).toList = some (ds ++ [unit]) :=
    Text.after?_eq_some_iff.2 htext
  have hdrop : (beforeNow ds unit).toList.drop 4 = ds ++ [unit] := by
    rw [htext]
    rfl
  rw [relative]
  simp only [hdrop, hrun, List.drop_left, if_neg hnow, hafter, hknown]
  rw [Text.parseInt64?_digits hne hds]
  obtain ⟨d, more, rfl⟩ := List.exists_cons_of_ne_nil hne
  split_ifs <;> rfl

/-- What a text for a time before the present is read as: the exact time, if the amount, the amount
in milliseconds and the time are words. -/
structure ReadsBefore (now : Int64) (ds : List Char) (unit : Char) (ms : ℤ) : Prop where
  /-- An amount that is no word is refused. -/
  refused : 2 ^ 63 ≤ Text.natOfDigits ds →
    relative now (beforeNow ds unit) = .error .badAmount
  /-- An amount in milliseconds that is no word overflows. -/
  multiply : Text.natOfDigits ds < 2 ^ 63 → 2 ^ 63 ≤ Text.natOfDigits ds * ms →
    relative now (beforeNow ds unit) = .error (.overflow .multiply)
  /-- A time that is no word overflows. -/
  subtract : Text.natOfDigits ds * ms < 2 ^ 63 →
    ¬IsWord (now.toInt - Text.natOfDigits ds * ms) →
      relative now (beforeNow ds unit) = .error (.overflow .subtract)
  /-- Otherwise the time is exact. -/
  exact : Text.natOfDigits ds * ms < 2 ^ 63 → IsWord (now.toInt - Text.natOfDigits ds * ms) →
    ∃ t, relative now (beforeNow ds unit) = .ok t ∧ t.toInt = now.toInt - Text.natOfDigits ds * ms

/-- Times before the present are read in this way. -/
theorem readsBefore (now : Int64) {ds : List Char} {unit : Char} {ms : ℤ} (hne : ds ≠ [])
    (hds : ds.all Text.isAsciiDigit = true) (hunit : (unit, ms) ∈ units) :
    ReadsBefore now ds unit ms := by
  have hread := relative_beforeNow now hne (Text.all_isDecimalDigit hds) hunit
  obtain ⟨-, -, hlow, hhigh⟩ := unit?_of_mem hunit
  have hms : (Int64.ofInt ms).toInt = ms := Int64.toInt_ofInt_of_le (by omega) (by omega)
  have hamount : Text.natOfDigits ds < 2 ^ 63 →
      (Int64.ofInt (Text.natOfDigits ds)).toInt = Text.natOfDigits ds := by
    intro hlt
    exact Int64.toInt_ofInt_of_le (by omega) (by omega)
  have hfits : Text.natOfDigits ds * ms < 2 ^ 63 → relative now (beforeNow ds unit) =
      (Overflow.subtract.check (now.toInt - Text.natOfDigits ds * ms)).mapError
        RequestError.overflow := by
    intro hproduct
    -- already as many seconds are a word
    have hseconds : (Text.natOfDigits ds : ℤ) * 1000 ≤ Text.natOfDigits ds * ms := by gcongr
    have hlt : Text.natOfDigits ds < 2 ^ 63 := by omega
    have hword : IsWord (Text.natOfDigits ds * ms) := isWord_iff.2 ⟨by omega, hproduct⟩
    rw [← hamount hlt, ← hms] at hword
    rw [hread, if_pos ⟨hds, hlt⟩, before_of_isWord now hword, hamount hlt, hms]
  refine ⟨?_, ?_, ?_, ?_⟩
  · intro hlarge
    rw [hread, if_neg (fun h => absurd h.2 (by omega))]
  · intro hlt hproduct
    have hword : ¬IsWord (Text.natOfDigits ds * ms) := by
      rw [isWord_iff]
      omega
    rw [← hamount hlt, ← hms] at hword
    rw [hread, if_pos ⟨hds, hlt⟩, before_of_not_isWord now hword]
    rfl
  · intro hproduct hword
    rw [hfits hproduct, Overflow.check_of_not_isWord _ hword]
    rfl
  · intro hproduct hword
    obtain ⟨t, hok, ht⟩ := Overflow.subtract.check_of_isWord hword
    refine ⟨t, ?_, ht⟩
    rw [hfits hproduct, hok]
    rfl

end TimeBound

namespace TimeRange

/-- The length of a range is the difference of its bounds, if that is a word. -/
theorem duration_exact {start stop : Int64} {range : TimeRange}
    (h : ofBounds? start stop = some range) :
    (stop.toInt - start.toInt < 2 ^ 63 →
      ∃ d, range.duration = .ok d ∧ d.toInt = stop.toInt - start.toInt) ∧
    (2 ^ 63 ≤ stop.toInt - start.toInt → range.duration = .error .subtract) := by
  rw [ofBounds?, Option.ite_none_right_eq_some] at h
  obtain ⟨hlt, hrange⟩ := h
  obtain rfl := Option.some.inj hrange
  rw [Int64.lt_iff_toInt_lt] at hlt
  constructor
  · intro hsmall
    have hword : IsWord (stop.toInt - start.toInt) := isWord_iff.2 ⟨by omega, hsmall⟩
    exact Overflow.subtract.check_of_isWord hword
  · intro hlarge
    have hword : ¬IsWord (stop.toInt - start.toInt) := by
      rw [isWord_iff]
      omega
    exact Overflow.subtract.check_of_not_isWord hword

end TimeRange

namespace Cli

/-- A range of the command line that only has an end starts six hours before it, if that is a
word. -/
theorem compileRange_stop (now : Int64) {text : String} {stop : Int64}
    (h : parseTime text = .ok stop) :
    (IsWord (stop.toInt - 21600000) →
      ∃ start, compileRange now none (some text) = .ok ⟨start, stop⟩ ∧
        start.toInt = stop.toInt - 21600000) ∧
    (¬IsWord (stop.toInt - 21600000) →
      compileRange now none (some text) = .error (.overflow .subtract)) := by
  have hspan : defaultSpan.toInt = 21600000 := by decide
  constructor
  · intro hword
    obtain ⟨start, hok, hstart⟩ := Overflow.subtract.check_of_isWord hword
    have hlt : start < stop := by
      rw [Int64.lt_iff_toInt_lt, hstart]
      omega
    refine ⟨start, ?_, hstart⟩
    rw [compileRange, h]
    simp only [bind, Except.bind, Word.sub, hspan, hok, Except.mapError, TimeRange.ofBounds?,
      if_pos hlt]
    rfl
  · intro hword
    rw [compileRange, h]
    simp only [bind, Except.bind, Word.sub, hspan, Overflow.check_of_not_isWord _ hword,
      Except.mapError]

end Cli

/-- Arithmetic on times is exact where every step of it is a word. For a time before the present, an
amount that is no word is refused; everywhere else the program is broken off at the first step whose
result is none. So it is with the length of a range, and with a range that only has an end, which
starts exactly six hours before it. -/
theorem time_arithmetic (now : Int64) :
    (∀ (ds : List Char) (unit : Char) (ms : ℤ), ds ≠ [] → ds.all Text.isAsciiDigit = true →
      (unit, ms) ∈ TimeBound.units → TimeBound.ReadsBefore now ds unit ms) ∧
    (∀ (start stop : Int64) (range : TimeRange), TimeRange.ofBounds? start stop = some range →
      (stop.toInt - start.toInt < 2 ^ 63 →
        ∃ d, range.duration = .ok d ∧ d.toInt = stop.toInt - start.toInt) ∧
      (2 ^ 63 ≤ stop.toInt - start.toInt → range.duration = .error .subtract)) ∧
    ∀ (text : String) (stop : Int64), Cli.parseTime text = .ok stop →
      (IsWord (stop.toInt - 21600000) →
        ∃ start, Cli.compileRange now none (some text) = .ok ⟨start, stop⟩ ∧
          start.toInt = stop.toInt - 21600000) ∧
      (¬IsWord (stop.toInt - 21600000) →
        Cli.compileRange now none (some text) = .error (.overflow .subtract)) := by
  refine ⟨?_, ?_, ?_⟩
  · intro ds unit ms hne hds hunit
    exact TimeBound.readsBefore now hne hds hunit
  · intro start stop range hrange
    exact TimeRange.duration_exact hrange
  · intro text stop hstop
    exact Cli.compileRange_stop now hstop

/-- Six hours before the present, the length of a range, and a range that only has an end. -/
theorem time_arithmetic_six_hours :
    (∃ t, TimeBound.relative 1700000000000 (TimeBound.beforeNow ['6'] 'h') = .ok t ∧
      t.toInt = 1700000000000 - 6 * 3600000) ∧
    (∃ d, (TimeRange.mk (-5) 1700000000000).duration = .ok d ∧ d.toInt = 1700000000005) ∧
    ∃ start, Cli.compileRange 1700000000000 none (some "1700000000000") =
        .ok ⟨start, 1700000000000⟩ ∧
      start.toInt = 1700000000000 - 21600000 := by
  obtain ⟨hrelative, hduration, hrange⟩ := time_arithmetic 1700000000000
  have hread : Cli.parseTime "1700000000000" = .ok 1700000000000 := by
    rw [Cli.parseTime, Text.parseInt64?_digits (by decide) (by decide),
      if_pos ⟨by decide, by decide⟩]
    rfl
  refine ⟨?_, ?_, ?_⟩
  · exact (hrelative ['6'] 'h' 3600000 (by decide) (by decide) (by decide)).exact
      (by decide) (by decide)
  · exact (hduration (-5) 1700000000000 _ rfl).1 (by decide)
  · exact (hrange _ _ hread).1 (by decide)

/-- More seconds before the present than words have milliseconds are neither a time nor refused, and
the range of all words, which is accepted, has no length. -/
theorem time_overflows :
    TimeBound.relative 0 (TimeBound.beforeNow "18446744073709552".toList 's') =
      .error (.overflow .multiply) ∧
    ¬IsWord (0 - 18446744073709552 * 1000) ∧
    ∃ range, TimeRange.ofBounds? Int64.minValue Int64.maxValue = some range ∧
      range.duration = .error .subtract := by
  refine ⟨?_, by decide, _, rfl, by decide⟩
  exact (@TimeBound.readsBefore 0 "18446744073709552".toList 's' 1000 (by decide) (by decide)
    (by decide)).multiply (by decide) (by decide)

end SeriesQuery
