import SeriesQuery.Proofs.Text.Entity

/-!
# Decoding, for every text

`Resolved` reads a text from left to right: what stands for a character is that character, and an
ampersand that starts no reference stays. `resolved_iff` says that this is what decoding does, with
every text. So each reference is resolved once, and nothing else is changed.
-/

namespace SeriesQuery.Text

/-- A text and the text that it is with its references resolved. -/
inductive Resolved : List Char → List Char → Prop where
  | nil : Resolved [] []
  /-- A character, as it is or as a reference. -/
  | written {c : Char} {piece rest text : List Char} :
      Written c piece → Resolved rest text → Resolved (piece ++ rest) (c :: text)
  /-- An ampersand that starts no reference. -/
  | ampersand {rest text : List Char} : (∀ c body, Reference c body → ¬body <+: rest) →
      Resolved rest text → Resolved ('&' :: rest) ('&' :: text)

/-- ASCII digits are those of the numbers below ten. -/
theorem exists_digitChar {c : Char} (h : isAsciiDigit c = true) :
    ∃ d < 10, Nat.digitChar d = c := by
  have hall : ∀ n < 128, isAsciiDigit (Char.ofNat n) = true →
      ∃ d < 10, Nat.digitChar d = Char.ofNat n := by decide
  have hlt : c.toNat < 128 := by
    have := toNat_of_digit h
    omega
  rw [← Char.ofNat_toNat c] at h ⊢
  exact hall _ hlt h

/-- Hexadecimal digits are those of the numbers below sixteen, in either case. -/
theorem exists_digitText {c : Char} (h : isHexDigit c = true) :
    ∃ d : ℕ × Bool, d.1 < 16 ∧ digitText d = c := by
  have hall : ∀ n < 128, isHexDigit (Char.ofNat n) = true →
      ∃ d < 16, ∃ upper, digitText (d, upper) = Char.ofNat n := by decide
  have hlt : c.toNat < 128 := by
    simp only [isHexDigit, isAsciiDigit, Bool.or_eq_true, Bool.and_eq_true, decide_eq_true_eq,
      Char.le_def, UInt32.le_iff_toNat_le] at h
    change c.val.toNat < 128
    rcases h with (⟨-, h⟩ | ⟨-, h⟩) | ⟨-, h⟩ <;> exact lt_of_le_of_lt h (by decide)
  rw [← Char.ofNat_toNat c] at h ⊢
  obtain ⟨d, hd, upper, htext⟩ := hall _ hlt h
  exact ⟨(d, upper), hd, htext⟩

/-- A run of characters is the text of numbers if each of the characters is. -/
theorem exists_map_eq {α : Type} {text : α → Char} {good : α → Prop} {cs : List Char}
    (h : ∀ c ∈ cs, ∃ d, good d ∧ text d = c) : ∃ ds : List α, (∀ d ∈ ds, good d) ∧
      ds.map text = cs := by
  induction cs with
  | nil => exact ⟨[], by simp, rfl⟩
  | cons c cs ih =>
      obtain ⟨d, hd, rfl⟩ := h c List.mem_cons_self
      obtain ⟨ds, hds, rfl⟩ := ih fun c hc => h c (List.mem_cons_of_mem _ hc)
      exact ⟨d :: ds, List.forall_mem_cons.2 ⟨hd, hds⟩, rfl⟩

/-- Digits up to a semicolon are at the start of the text, and there are as many as there may be. -/
theorem of_digitsToSemicolon? {isDigit : Char → Bool} {width : ℕ} {s ds : List Char}
    (h : digitsToSemicolon? isDigit width s = some ds) :
    ds ++ [';'] <+: s ∧ (∀ c ∈ ds, isDigit c = true) ∧ 1 ≤ ds.length ∧ ds.length ≤ width := by
  rw [digitsToSemicolon?, Option.ite_none_right_eq_some] at h
  obtain ⟨⟨hlength, hsemicolon⟩, hrun⟩ := h
  obtain rfl := Option.some.inj hrun
  rw [List.mem_range'_1] at hlength
  refine ⟨?_, fun c hc => List.mem_takeWhile_imp hc, by omega, by omega⟩
  obtain ⟨more, hmore⟩ := List.head?_eq_some_iff.1 hsemicolon
  have htext := List.prefix_iff_eq_append.1 (List.takeWhile_prefix isDigit (l := s))
  rw [hmore, List.append_cons] at htext
  exact ⟨more, htext⟩

/-- The number of a character is its code point. -/
theorem eq_toNat_of_charOfNat? {n : ℕ} {c : Char} (h : charOfNat? n = some c) : n = c.toNat := by
  rw [charOfNat?, Option.ite_none_right_eq_some] at h
  obtain ⟨hvalid, hchar⟩ := h
  rw [← Option.some.inj hchar, Char.ofNat, dif_pos hvalid]
  rfl

/-- A number in decimal digits is a reference to its character. -/
theorem reference_decimal {s : List Char} {c : Char} {n : ℕ}
    (h : (do
      let ds ← digitsToSemicolon? isAsciiDigit 5 s
      let d ← charOfNat? (natOfDigits ds)
      some (d, ds.length + 2)) = some (c, n)) :
    ∃ body, Reference c body ∧ body <+: '#' :: s ∧ body.length = n := by
  simp only [Option.bind_eq_bind, Option.bind_eq_some_iff, Option.some.injEq,
    Prod.mk.injEq] at h
  obtain ⟨_, hdigits, _, hchar, rfl, rfl⟩ := h
  obtain ⟨hstarts, hall, hlength⟩ := of_digitsToSemicolon? hdigits
  obtain ⟨ds, hds, rfl⟩ := exists_map_eq fun c hc => exists_digitChar (hall c hc)
  refine ⟨_, .decimal ds hds (by simpa using hlength) ?_, by simpa using hstarts, by simp⟩
  have hfold := foldl_digits 10 digitValue Nat.digitChar id fun d hd =>
    (digitChar_decimal d (hds d hd)).2
  rw [← eq_toNat_of_charOfNat? hchar, natOfDigits, hfold, List.map_id]

/-- A number in hexadecimal digits is a reference to its character. -/
theorem reference_hexadecimal {s : List Char} {c : Char} {n : ℕ}
    (h : (do
      let ds ← digitsToSemicolon? isHexDigit 4 s
      let d ← charOfNat? (natOfHexDigits ds)
      some (d, ds.length + 3)) = some (c, n)) :
    ∃ body, Reference c body ∧ body <+: '#' :: 'x' :: s ∧ body.length = n := by
  simp only [Option.bind_eq_bind, Option.bind_eq_some_iff, Option.some.injEq,
    Prod.mk.injEq] at h
  obtain ⟨_, hdigits, _, hchar, rfl, rfl⟩ := h
  obtain ⟨hstarts, hall, hlength⟩ := of_digitsToSemicolon? hdigits
  obtain ⟨ds, hds, rfl⟩ := exists_map_eq fun c hc => exists_digitText (hall c hc)
  refine ⟨_, .hexadecimal ds hds (by simpa using hlength) ?_, by simpa using hstarts, by simp⟩
  have hfold := foldl_digits 16 hexDigitValue digitText Prod.fst fun d hd =>
    (digitText_hexadecimal d.2 d.1 (hds d hd)).2
  rw [← eq_toNat_of_charOfNat? hchar, natOfHexDigits, hfold]

/-- What is taken for a reference is one. -/
theorem reference_of_entity? {s : List Char} {c : Char} {n : ℕ} (h : entity? s = some (c, n)) :
    ∃ body, Reference c body ∧ body <+: s ∧ body.length = n := by
  unfold entity? at h
  split at h
  · next name d hfind =>
      obtain ⟨rfl, rfl⟩ := Prod.mk.inj (Option.some.inj h)
      have hstarts : name <+: s := by
        have hafter := List.find?_some hfind
        exact isSome_after?_iff.1 hafter
      refine ⟨name, ?_, hstarts, rfl⟩
      have hmem := List.mem_of_find?_eq_some hfind
      simp only [namedEntities, List.mem_cons, List.not_mem_nil, or_false, Prod.mk.injEq] at hmem
      rcases hmem with ⟨rfl, rfl⟩ | ⟨rfl, rfl⟩ | ⟨rfl, rfl⟩ | ⟨rfl, rfl⟩ | ⟨rfl, rfl⟩
      · exact .named "amp" (by decide)
      · exact .named "gt" (by decide)
      · exact .named "lt" (by decide)
      · exact .named "quot" (by decide)
      · exact .named "#39" (by decide)
  · split at h
    · exact reference_hexadecimal h
    · exact reference_decimal h
    · cases h

/-- Where no reference starts, none is found. -/
theorem entity?_eq_none {s : List Char} (h : ∀ c body, Reference c body → ¬body <+: s) :
    entity? s = none := by
  rw [Option.eq_none_iff_forall_ne_some]
  rintro ⟨c, n⟩ hentity
  obtain ⟨body, hbody, hstarts, -⟩ := reference_of_entity? hentity
  exact h c body hbody hstarts

/-- Decoding resolves the references of a text. -/
theorem resolved_decodeEntityChars (s : List Char) : Resolved s (decodeEntityChars s) := by
  fun_induction decodeEntityChars s with
  | case1 => exact .nil
  | case2 rest d n hentity ih =>
      obtain ⟨body, hbody, hstarts, rfl⟩ := reference_of_entity? hentity
      obtain ⟨more, rfl⟩ := hstarts
      rw [List.drop_left] at ih ⊢
      rw [← List.cons_append]
      exact .written (.reference hbody) ih
  | case3 rest hentity ih =>
      refine .ampersand (fun c body hbody hstarts => ?_) ih
      obtain ⟨more, rfl⟩ := hstarts
      rw [entity?_reference hbody] at hentity
      cases hentity
  | case4 c rest hc ih => exact .written (.plain hc) ih

/-- A text is decoded to what it is with its references resolved, and to nothing else. -/
theorem resolved_iff {s text : List Char} : Resolved s text ↔ decodeEntityChars s = text := by
  constructor
  · intro h
    induction h with
    | nil => rw [decodeEntityChars]
    | written hpiece _ ih => rw [decodeEntityChars_written hpiece, ih]
    | ampersand hnone _ ih => rw [decodeEntityChars, if_pos rfl, entity?_eq_none hnone, ih]
  · rintro rfl
    exact resolved_decodeEntityChars s

end SeriesQuery.Text
