import SeriesQuery.Proofs.Template.Scan
import SeriesQuery.Proofs.Text.Trim

/-!
# Slots that are reported as no path

Around the path of a slot there may be spaces, tabs and line ends. What is reported of braces that
hold no slot is trimmed, and trimming drops every blank. So a path between other blanks is reported,
as if it were none: `Template.notAPath_exact` says that this is the only way in which a path is, and
that every path between such blanks is.
-/

namespace SeriesQuery

namespace Path

/-- The text of a dotted path. -/
def IsPathText (s : List Char) : Prop := ∃ p : Path, p.IsDotted ∧ s = p.text

variable {p : Path}

/-- A path is written with characters of names and points. -/
theorem IsDotted.toNat_bounds (hp : p.IsDotted) :
    ∀ c ∈ p.text, 46 ≤ c.toNat ∧ c.toNat ≤ 122 := by
  obtain ⟨⟨first, more, hroot, hfirst, hmore⟩, hsteps⟩ := hp
  intro c hc
  apply Path.toNat_bounds
  rw [text, List.mem_append, hroot, List.mem_cons, stepsText, List.mem_flatMap] at hc
  rcases hc with (rfl | hc) | ⟨step, hstep, hc⟩
  · exact .inl (.inl hfirst)
  · exact .inl (hmore c hc)
  · rcases List.mem_cons.1 hc with rfl | hc
    · exact .inr rfl
    · exact .inl ((hsteps step hstep).2 c hc)

/-- A path has no blanks. -/
theorem IsDotted.bare (hp : p.IsDotted) : Text.Bare p.text := by
  refine Text.bare_of_forall fun c hc => ?_
  have hbounds := hp.toNat_bounds c hc
  simp only [Text.isBlank, Bool.or_eq_false_iff, Bool.and_eq_false_iff, beq_eq_false_iff_ne,
    decide_eq_false_iff_not]
  omega

/-- A path is not empty. -/
theorem IsDotted.text_ne_nil (hp : p.IsDotted) : p.text ≠ [] := by
  obtain ⟨c, cs, hroot, -, -⟩ := hp.root
  simp [text, hroot]

/-- A path has no braces. -/
theorem IsDotted.not_mem_brace (hp : p.IsDotted) : '\x7d' ∉ p.text := by
  intro h
  have hbounds := hp.toNat_bounds _ h
  revert hbounds
  decide

end Path

namespace Template

open SeriesQuery.Path Text

/-- A gap is blank. -/
theorem isBlank_of_inGap {c : Char} (h : InGap c) : isBlank c = true := by
  rcases h with rfl | rfl | rfl | rfl <;> decide

/-- No blank is a brace. -/
theorem not_mem_brace_of_allBlank {s : List Char} (h : AllBlank s) : '\x7d' ∉ s := fun hmem =>
  absurd (h _ hmem) (by decide)

/-- Something between opening and closing braces. -/
def enclosed (inner : List Char) : List Char := opening ++ inner ++ closing

/-- A text is a template exactly if it can be scanned to its end. -/
theorem exists_parse_iff {source : String} :
    (∃ t, parse source = .ok t) ↔ ∃ items, Scans source.toList items [] := by
  rcases hpieces : readPieces source.toList with ⟨pieces, left⟩
  obtain ⟨hscan, hleft⟩ := scans_readPieces hpieces
  rw [parse, hpieces]
  cases left with
  | nil => exact iff_of_true ⟨_, rfl⟩ ⟨_, hscan⟩
  | cons c left =>
      obtain ⟨hopening, hopens⟩ := hleft.resolve_left (List.cons_ne_nil c left)
      refine iff_of_false ?_ ?_
      · rintro ⟨t, ht⟩
        cases ht
      · rintro ⟨items, h⟩
        obtain ⟨more, hmore⟩ := h.rest hscan
        exact hopens (hmore.opens hopening)

/-- What is wrong with a text is what is wrong with opening braces that a scan meets and that open no
slot. -/
theorem of_parse_error {source : String} {e : TemplateError} (h : parse source = .error e) :
    ∃ before left items, source.toList = before ++ left ∧ Scans source.toList items left ∧
      opening <+: left ∧ ¬ Opens left ∧
      e = errorAt source (String.ofList before).utf8ByteSize left := by
  rcases hpieces : readPieces source.toList with ⟨pieces, left⟩
  obtain ⟨hscan, hleft⟩ := scans_readPieces hpieces
  rw [parse, hpieces] at h
  cases left with
  | nil => cases h
  | cons c left =>
      obtain ⟨hopening, hopens⟩ := hleft.resolve_left (List.cons_ne_nil c left)
      obtain ⟨before, hbefore⟩ := hscan.exists_before
      refine ⟨before, _, _, hbefore, hscan, hopening, hopens, ?_⟩
      cases h
      rw [hbefore, byteCount_append, Nat.add_sub_cancel, byteCount_eq]

/-- No scan goes past opening braces that open no slot. -/
theorem Scans.eq_of_not_opens {s left : List Char} {items : List Item} (h : Scans s items left)
    (hopening : opening <+: s) (hopens : ¬ Opens s) : left = s := by
  cases h with
  | stop => rfl
  | char hc => exact absurd hopening hc
  | slot ht => exact absurd ⟨_, _, _, ht, rfl⟩ hopens

/-- Opening braces that open no slot at the start of a text are reported there. -/
theorem parse_of_not_opens {source : String} (hopening : opening <+: source.toList)
    (h : ¬ Opens source.toList) : parse source = .error (errorAt source 0 source.toList) := by
  cases hparse : parse source with
  | ok t =>
      obtain ⟨items, hscan⟩ := exists_parse_iff.1 ⟨t, hparse⟩
      exact absurd (hscan.opens hopening) h
  | error e =>
      obtain ⟨before, left, items, hbefore, hscan, -, -, rfl⟩ := of_parse_error hparse
      obtain rfl := hscan.eq_of_not_opens hopening h
      obtain rfl : before = [] := List.append_left_eq_self.1 hbefore.symm
      rfl

/-- Before the first occurrence of a word there is none. -/
theorem not_infix_splitBefore {word : List Char} (hword : word ≠ []) (s : List Char) :
    ¬ word <:+: (splitBefore word s).1 := by
  induction s with
  | nil => simpa [splitBefore] using hword
  | cons c rest ih =>
      rw [splitBefore]
      split
      · simpa using hword
      · next h =>
          rw [isSome_after?_iff] at h
          rw [List.infix_cons_iff, not_or]
          refine ⟨fun hstart => h ?_, ih⟩
          have hrest := List.prefix_append (c :: (splitBefore word rest).1) (splitBefore word rest).2
          rw [List.cons_append, splitBefore_append] at hrest
          exact hstart.trans hrest

/-- A text without a brace is what stands before closing braces. -/
theorem splitBefore_closing {inner : List Char} (h : '\x7d' ∉ inner) (after : List Char) :
    splitBefore closing (inner ++ (closing ++ after)) = (inner, closing ++ after) := by
  induction inner with
  | nil => rfl
  | cons c inner ih =>
      rw [List.mem_cons, not_or] at h
      have hc : after? closing (c :: (inner ++ (closing ++ after))) = none := by
        rw [closing, after?, if_neg h.1]
      rw [List.cons_append, splitBefore, hc, ih h.2]
      rfl

/-- What is reported of braces with something between them that is not blank is what trimming leaves
of it. -/
theorem errorAt_enclosed {inner : List Char} (h : '\x7d' ∉ inner) (hne : trimChars inner ≠ [])
    (source : String) (offset : Nat) :
    errorAt source offset (enclosed inner) =
      .notAPath source offset (String.ofList (trimChars inner)) := by
  have hsplit := splitBefore_closing h []
  rw [List.append_nil] at hsplit
  have hdrop : (enclosed inner).drop 2 = inner ++ closing := rfl
  rw [errorAt]
  simp only [hdrop, hsplit]
  unfold closing
  cases htrim : trimChars inner with
  | nil => exact absurd htrim hne
  | cons c cs => simp only [htrim]

/-- What is reported as no path stood between the braces, up to blanks. -/
theorem of_errorAt {source s word : String} {offset n : Nat} {left : List Char}
    (hopening : opening <+: left) (h : errorAt source offset left = .notAPath s n word) :
    s = source ∧ n = offset ∧ ∃ inner after, left = enclosed inner ++ after ∧
      ¬ closing <:+: inner ∧ word.toList = trimChars inner ∧ word.toList ≠ [] := by
  have hnext := splitBefore_snd (by decide : closing ≠ []) (left.drop 2)
  have hbefore := not_infix_splitBefore (by decide : closing ≠ []) (left.drop 2)
  have hall := splitBefore_append closing (left.drop 2)
  obtain ⟨rest, rfl⟩ := hopening
  have hdrop : (opening ++ rest).drop 2 = rest := rfl
  rw [errorAt] at h
  simp only [hdrop] at h hnext hbefore hall
  rcases hsplit : splitBefore closing rest with ⟨inner, after⟩
  rw [hsplit] at h hnext hbefore hall
  cases after with
  | nil => cases h
  | cons c after =>
      simp only at h
      split at h
      · cases h
      · next hne =>
          cases h
          obtain ⟨⟨last, hlast⟩, -⟩ := hnext.resolve_left fun hnil => List.cons_ne_nil c after hnil.1
          refine ⟨rfl, rfl, inner, last, ?_, hbefore, String.toList_ofList, ?_⟩
          · rw [enclosed, List.append_assoc, hlast, List.append_assoc]
            exact congrArg _ hall.symm
          · rwa [String.toList_ofList]

/-- The slot at the start of what is enclosed fills it, but for one brace perhaps. -/
theorem IsSlot.enclosed {t s inner : List Char} {p : Path} (ht : IsSlot t p)
    (h : t ++ s = enclosed inner) (hinner : ¬ closing <:+: inner) :
    ∃ left right, (∀ c ∈ left, InGap c) ∧ (∀ c ∈ right, InGap c) ∧
      ((inner = left ++ p.text ++ right ∧ s = []) ∨
        (inner = left ++ p.text ++ right ++ ['\x7d'] ∧ s = ['\x7d'])) := by
  obtain ⟨-, left, right, hleft, hright, rfl⟩ := ht
  refine ⟨left, right, hleft, hright, ?_⟩
  generalize hfilled : left ++ p.text ++ right = filled
  have hrest : filled ++ (closing ++ s) = inner ++ closing := by
    rw [← hfilled]
    simpa [Template.enclosed] using h
  rcases List.append_eq_append_iff.1 hrest with ⟨more, rfl, hclosing⟩ | ⟨more, rfl, hclosing⟩
  · rcases more with _ | ⟨c, _ | ⟨d, more⟩⟩
    · exact .inl ⟨List.append_nil _, List.append_right_eq_self.1 hclosing⟩
    · cases hclosing
      exact .inr ⟨rfl, rfl⟩
    · -- two braces more would have been the closing ones
      cases hclosing
      exact absurd ⟨filled, more, by simp [closing]⟩ hinner
  · have hlength := congrArg List.length hclosing
    rw [List.length_append, List.length_append] at hlength
    obtain rfl : more = [] := List.length_eq_zero_iff.1 (by omega)
    obtain rfl : s = [] := List.length_eq_zero_iff.1 (by omega)
    exact .inl ⟨(List.append_nil inner).symm, rfl⟩

/-- A text without a brace is closed by the first closing braces after it. -/
theorem not_infix_of_not_mem {inner : List Char} (h : '\x7d' ∉ inner) : ¬ closing <:+: inner :=
  fun hinside => h (List.IsInfix.subset hinside List.mem_cons_self)

/-- A bare text between braces is a template exactly if it is a path, or if it ends with a brace that
closes one. -/
theorem exists_parse_enclosed {word : List Char} (hbare : Bare word)
    (hword : ¬ closing <:+: word) :
    (∃ t, parse (String.ofList (enclosed word)) = .ok t) ↔
      IsPathText word ∨
        ∃ path gap, IsPathText path ∧ (∀ c ∈ gap, InGap c) ∧ word = path ++ gap ++ ['\x7d'] := by
  rw [exists_parse_iff, String.toList_ofList]
  have hnil : AllBlank [] := by simp [AllBlank]
  have htrim := trimChars_eq_self_iff.2 hbare
  constructor
  · rintro ⟨items, hscan⟩
    obtain ⟨t, p, rest, ht, heq⟩ := hscan.opens (List.prefix_append _ _)
    have hp := ht.1
    obtain ⟨left, right, hleft, hright, ⟨hfilled, -⟩ | ⟨hfilled, -⟩⟩ := ht.enclosed heq.symm hword
    · left
      refine ⟨p, hp, ?_⟩
      rw [← htrim, hfilled]
      exact trimChars_around (fun c hc => isBlank_of_inGap (hleft c hc))
        (fun c hc => isBlank_of_inGap (hright c hc)) hp.bare
    · right
      refine ⟨p.text, right, ⟨p, hp, rfl⟩, hright, ?_⟩
      have hend : Bare (p.text ++ right ++ ['\x7d']) := by
        constructor
        · rw [List.append_assoc, List.head?_append_of_ne_nil _ hp.text_ne_nil]
          exact hp.bare.head
        · rw [List.getLast?_concat]
          rintro _ ⟨⟩
          decide
      rw [← htrim, hfilled]
      have h := trimChars_around (fun c hc => isBlank_of_inGap (hleft c hc)) hnil hend
      simpa using h
  · rintro (⟨p, hp, rfl⟩ | ⟨_, gap, ⟨p, hp, rfl⟩, hgap, rfl⟩)
    · have hslot : IsSlot (enclosed p.text) p :=
        ⟨hp, [], [], by simp, by simp, by simp [enclosed]⟩
      have hscan := Scans.slot hslot (Scans.stop [])
      rw [List.append_nil] at hscan
      exact ⟨_, hscan⟩
    · have hslot : IsSlot (enclosed (p.text ++ gap)) p :=
        ⟨hp, [], gap, by simp, hgap, by simp [enclosed]⟩
      have hscan := Scans.slot hslot (Scans.char (by decide : ¬ opening <+: ['\x7d']) (Scans.stop []))
      have htext : enclosed (p.text ++ gap) ++ ['\x7d'] = enclosed (p.text ++ gap ++ ['\x7d']) := by
        simp [enclosed, closing]
      rw [htext] at hscan
      exact ⟨_, hscan⟩

section Around

variable {p : Path} {left right : List Char}

/-- A path in a gap is read as a slot. -/
theorem parse_gaps (hp : p.IsDotted) (hleft : ∀ c ∈ left, InGap c)
    (hright : ∀ c ∈ right, InGap c) :
    parse (String.ofList (enclosed (left ++ p.text ++ right))) =
      .ok ⟨String.ofList (enclosed (left ++ p.text ++ right)), [.slot p]⟩ := by
  refine IsSlot.parse_ofList ⟨hp, left, right, hleft, hright, ?_⟩
  simp only [enclosed, List.append_assoc]

/-- A path between blanks that are no gap is reported. -/
theorem parse_blanks (hp : p.IsDotted) (hleft : AllBlank left) (hright : AllBlank right)
    (hblank : ∃ c ∈ left ++ right, ¬ InGap c) :
    parse (String.ofList (enclosed (left ++ p.text ++ right))) =
      .error (.notAPath (String.ofList (enclosed (left ++ p.text ++ right))) 0
        (String.ofList p.text)) := by
  have hbrace : '\x7d' ∉ left ++ p.text ++ right := by
    simp only [List.mem_append, not_or]
    exact ⟨⟨not_mem_brace_of_allBlank hleft, hp.not_mem_brace⟩, not_mem_brace_of_allBlank hright⟩
  have htrim := trimChars_around hleft hright hp.bare
  have hopens : ¬ Opens (enclosed (left ++ p.text ++ right)) := by
    -- a slot here would have the same path between the same blanks
    rintro ⟨t, q, rest, ht, heq⟩
    have hq := ht.1
    obtain ⟨left', right', hleft', hright', ⟨hfilled, -⟩ | ⟨hfilled, -⟩⟩ :=
      ht.enclosed heq.symm (not_infix_of_not_mem hbrace)
    · obtain ⟨rfl, -, rfl⟩ := around_inj hleft hright hp.bare hp.text_ne_nil
        (fun c hc => isBlank_of_inGap (hleft' c hc)) (fun c hc => isBlank_of_inGap (hright' c hc))
        hq.bare hfilled
      obtain ⟨c, hc, hgap⟩ := hblank
      exact hgap ((List.mem_append.1 hc).elim (hleft' c) (hright' c))
    · rw [hfilled] at hbrace
      exact hbrace (by simp)
  rw [← String.toList_ofList (l := enclosed (left ++ p.text ++ right))] at hopens
  have hopening : opening <+: (String.ofList (enclosed (left ++ p.text ++ right))).toList := by
    rw [String.toList_ofList]
    exact List.prefix_append _ _
  have hne : trimChars (left ++ p.text ++ right) ≠ [] := by
    rw [htrim]
    exact hp.text_ne_nil
  rw [parse_of_not_opens hopening hopens, String.toList_ofList, errorAt_enclosed hbrace hne, htrim]

end Around

/-- Between the braces at a byte of a text stands a word, with nothing but blanks around it. -/
structure StandsAt (source word : String) (offset : Nat) (left right : List Char) : Prop where
  place : ∃ before after, source.toList = before ++ (enclosed (left ++ word.toList ++ right) ++ after) ∧
    offset = (String.ofList before).utf8ByteSize
  /-- The closing braces are the first ones. -/
  closed : ¬ closing <:+: left ++ word.toList ++ right
  left_blank : AllBlank left
  right_blank : AllBlank right
  bare : Bare word.toList
  ne_empty : word ≠ ""

/-- What is reported as no path is a word with blanks around it. -/
theorem exists_standsAt {source s word : String} {offset : Nat}
    (h : parse source = .error (.notAPath s offset word)) :
    s = source ∧ ∃ left right, StandsAt source word offset left right ∧
      (IsPathText word.toList → ∃ c ∈ left ++ right, ¬ InGap c) := by
  obtain ⟨before, rest, items, hbefore, -, hopening, hopens, herror⟩ := of_parse_error h
  obtain ⟨rfl, rfl, inner, after, rfl, hclosed, hword, hne⟩ := of_errorAt hopening herror.symm
  obtain ⟨left, right, hleft, hright, hbare, hinner⟩ := exists_trimChars inner
  rw [← hword] at hbare hinner
  refine ⟨rfl, left, right, ⟨⟨before, after, hinner ▸ hbefore, rfl⟩, hinner ▸ hclosed, hleft, hright,
    hbare, ?_⟩, ?_⟩
  · rintro rfl
    exact hne rfl
  · rintro ⟨p, hp, hpath⟩
    by_contra hgaps
    have hgap : ∀ c ∈ left ++ right, InGap c := fun c hc =>
      by_contra fun hnot => hgaps ⟨c, hc, hnot⟩
    refine hopens ⟨_, p, after, ⟨hp, left, right, fun c hc => hgap c (List.mem_append_left _ hc),
      fun c hc => hgap c (List.mem_append_right _ hc), ?_⟩, rfl⟩
    rw [hinner, hpath]
    simp [enclosed]

/-- What is reported as no path is what stands between the braces without the blanks around it, and
it is a path only where some of these blanks is no space, tab or line end. Between braces of its own
it is a template only if it is a path, or ends with a brace that closes one. And every path between
blanks of which some is no space, tab or line end is reported as no path, while every other one is
read as a slot. -/
theorem notAPath_exact (source : String) :
    (∀ s word offset, parse source = .error (.notAPath s offset word) →
      s = source ∧ ∃ left right, StandsAt source word offset left right ∧
        (IsPathText word.toList → ∃ c ∈ left ++ right, ¬ InGap c) ∧
        ((∃ t, parse (String.ofList (enclosed word.toList)) = .ok t) ↔
          IsPathText word.toList ∨ ∃ path gap, IsPathText path ∧ (∀ c ∈ gap, InGap c) ∧
            word.toList = path ++ gap ++ ['\x7d'])) ∧
    ∀ (p : Path) (left right : List Char), p.IsDotted → AllBlank left → AllBlank right →
      source.toList = enclosed (left ++ p.text ++ right) →
      ((∀ c ∈ left ++ right, InGap c) → parse source = .ok ⟨source, [.slot p]⟩) ∧
      ((∃ c ∈ left ++ right, ¬ InGap c) →
        parse source = .error (.notAPath source 0 (String.ofList p.text))) := by
  refine ⟨fun s word offset h => ?_, fun p left right hp hleft hright hsource => ?_⟩
  · obtain ⟨hsource, left, right, hstands, hpath⟩ := exists_standsAt h
    have hclosed : ¬ closing <:+: word.toList := fun hinside =>
      hstands.closed (hinside.trans (List.infix_append left word.toList right))
    exact ⟨hsource, left, right, hstands, hpath, exists_parse_enclosed hstands.bare hclosed⟩
  · obtain rfl : String.ofList (enclosed (left ++ p.text ++ right)) = source := by
      rw [← hsource, String.ofList_toList]
    refine ⟨fun hgaps => ?_, parse_blanks hp hleft hright⟩
    exact parse_gaps hp (fun c hc => hgaps c (List.mem_append_left _ hc))
      (fun c hc => hgaps c (List.mem_append_right _ hc))

/-- A path between a tab and a no-break space is reported. -/
theorem notAPath_exact_mixed :
    ∃ left right, StandsAt "\x7b\x7b\ta.0\u00a0\x7d\x7d" "a.0" 0 left right ∧
      (IsPathText "a.0".toList → ∃ c ∈ left ++ right, ¬ InGap c) := by
  have hp : (⟨"a", ["0"]⟩ : Path).IsDotted := by
    refine ⟨⟨'a', [], rfl, by decide, by simp⟩, ?_⟩
    intro step hstep
    obtain rfl := List.mem_singleton.1 hstep
    exact ⟨by decide, by simp [InName]⟩
  have hleft : AllBlank ['\t'] := by simp [AllBlank]; decide
  have hright : AllBlank ['\u00a0'] := by simp [AllBlank]; decide
  have hblank : ∃ c ∈ ['\t'] ++ ['\u00a0'], ¬ InGap c := ⟨'\u00a0', by simp, by simp [InGap]⟩
  obtain ⟨hreports, hreported⟩ := notAPath_exact "\x7b\x7b\ta.0\u00a0\x7d\x7d"
  obtain ⟨-, left, right, hstands, hpath, -⟩ :=
    hreports _ _ _ ((hreported _ _ _ hp hleft hright (by decide)).2 hblank)
  have hword : String.ofList (⟨"a", ["0"]⟩ : Path).text = "a.0" := by decide
  rw [hword] at hstands hpath
  exact ⟨left, right, hstands, hpath⟩

/-- A path after a no-break space is reported, and the same path alone is read. -/
theorem path_after_space_reported :
    parse "\x7b\x7b\u00a0a\x7d\x7d" = .error (.notAPath "\x7b\x7b\u00a0a\x7d\x7d" 0 "a") ∧
    IsPathText "a".toList ∧ ∃ t, parse "\x7b\x7ba\x7d\x7d" = .ok t := by
  refine ⟨by decide +kernel, ⟨⟨"a", []⟩, ⟨⟨'a', [], rfl, by decide, by simp⟩, by simp⟩, rfl⟩, ?_⟩
  exact ⟨⟨"\x7b\x7ba\x7d\x7d", [.slot ⟨"a", []⟩]⟩, by decide +kernel⟩

end Template

end SeriesQuery
