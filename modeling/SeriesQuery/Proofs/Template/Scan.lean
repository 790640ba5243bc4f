import Mathlib.Algebra.Ring.Nat
import Mathlib.Data.List.Forall2
import SeriesQuery.Proofs.Template.Slot
import SeriesQuery.Text.Split

/-!
# Reading and filling templates

A template is scanned from its start: two opening braces have to open a slot, and every other
character stands for itself. `Template.parse_exact` says that a text is a template exactly if every
pair of opening braces that the scan meets opens a slot, that a template is filled with the texts of
the values at its paths and nothing else is done to them, and that otherwise the first pair that
opens none is reported by its byte, as one without closing braces exactly if none follow.
-/

namespace SeriesQuery

namespace Json

/-- The text of a value in a template. -/
inductive HasText : Json → String → Prop where
  | null : HasText .null ""
  | true : HasText (.bool .true) "true"
  | false : HasText (.bool .false) "false"
  | num (n : Number) : HasText (.num n) n.text
  | str (s : String) : HasText (.str s) s
  | arr {items : List Json} {texts : List String} (h : List.Forall₂ HasText items texts) :
      HasText (.arr items) (Text.joinWith "," texts)
  | obj (fields : Fields) : HasText (.obj fields) (Json.obj fields).text

/-- The texts of items stand between commas. -/
theorem displayItems_eq (items : List Json) :
    displayItems items = Text.joinWith "," (items.map display) := by
  induction items with
  | nil => rfl
  | cons a items ih =>
      cases items with
      | nil => rfl
      | cons b items => exact congrArg (a.display ++ "," ++ ·) ih

mutual
/-- Every value has the text that is shown for it. -/
theorem hasText_display : ∀ v : Json, v.HasText v.display
  | .null => .null
  | .bool .true => .true
  | .bool .false => .false
  | .num n => .num n
  | .str s => .str s
  | .arr items => by
      rw [display, displayItems_eq]
      exact .arr (forall₂_display items)
  | .obj fields => .obj fields

/-- Every item has the text that is shown for it. -/
theorem forall₂_display : ∀ items : List Json,
    List.Forall₂ HasText items (items.map display)
  | [] => .nil
  | v :: items => .cons (hasText_display v) (forall₂_display items)
end

end Json

namespace Path

/-- What steps lead to from a value: an entry of an object by its key, an item of an array by its
position. -/
inductive LeadsTo : Json → List String → Json → Prop where
  | here (v : Json) : LeadsTo v [] v
  | field {fields : Fields} {step : String} {w v : Json} {steps : List String}
      (hstep : Dict.get? fields step = some w) (h : LeadsTo w steps v) :
      LeadsTo (.obj fields) (step :: steps) v
  | item {items : List Json} {step : String} {i : Nat} {w v : Json} {steps : List String}
      (hindex : Text.parseBelow? (2 ^ 64) step.toList = some i) (hstep : items[i]? = some w)
      (h : LeadsTo w steps v) : LeadsTo (.arr items) (step :: steps) v

/-- The value that a path leads to from bindings. -/
def Reaches (p : Path) (bindings : Fields) (v : Json) : Prop :=
  ∃ w, Dict.get? bindings p.root = some w ∧ LeadsTo w p.steps v

/-- Steps lead where they are followed to. -/
theorem descend?_eq_some_iff {w v : Json} {steps : List String} :
    descend? w steps = some v ↔ LeadsTo w steps v := by
  constructor
  · intro h
    fun_induction descend? w steps with
    | case1 =>
        cases h
        exact .here _
    | case2 fields step steps ih =>
        simp only [bind, Option.bind_eq_some_iff] at h
        obtain ⟨w, hstep, h⟩ := h
        exact .field hstep (ih w h)
    | case3 items step steps ih =>
        simp only [bind, Option.bind_eq_some_iff] at h
        obtain ⟨i, hindex, w, hstep, h⟩ := h
        exact .item hindex hstep (ih w h)
    | case4 => cases h
  · intro h
    induction h with
    | here v => cases v <;> rfl
    | field hstep _ ih =>
        rw [descend?, hstep]
        exact ih
    | @item items step i w v steps hindex hstep _ ih =>
        have hposition : index? step = some i := hindex
        rw [descend?, hposition]
        simp only [Option.bind_eq_bind, Option.bind_some, hstep, ih]

/-- A path is looked up where it leads. -/
theorem lookup?_eq_some_iff {p : Path} {bindings : Fields} {v : Json} :
    p.lookup? bindings = some v ↔ p.Reaches bindings v := by
  simp only [lookup?, bind, Option.bind_eq_some_iff, descend?_eq_some_iff, Reaches]

end Path

namespace TemplateError

/-- The byte where a template is wrong. -/
def offset : TemplateError → Nat
  | unclosed _ n => n
  | emptySlot _ n => n
  | notAPath _ n _ => n

/-- Whether closing braces are missing. -/
def IsUnclosed : TemplateError → Prop
  | unclosed _ _ => True
  | _ => False

end TemplateError

namespace Template

/-- What a scan meets. -/
inductive Item where
  /-- A character that stands for itself. -/
  | char (c : Char)
  /-- A slot. -/
  | slot (path : Path)

/-- A scan over the start of a text, what it meets and what it leaves. -/
inductive Scans : List Char → List Item → List Char → Prop where
  | stop (s : List Char) : Scans s [] s
  | char {c : Char} {s left : List Char} {items : List Item} (hc : ¬ opening <+: c :: s)
      (h : Scans s items left) : Scans (c :: s) (.char c :: items) left
  | slot {t s left : List Char} {path : Path} {items : List Item} (ht : IsSlot t path)
      (h : Scans s items left) : Scans (t ++ s) (.slot path :: items) left

/-- The text that an item is filled with. -/
inductive Fills (bindings : Fields) : Item → String → Prop where
  | char (c : Char) : Fills bindings (.char c) (String.singleton c)
  | value {p : Path} {v : Json} {text : String} (hv : p.Reaches bindings v)
      (htext : v.HasText text) : Fills bindings (.slot p) text
  | missing {p : Path} (h : ∀ v, ¬ p.Reaches bindings v) : Fills bindings (.slot p) ""

/-- What a scan meets in place of a piece. -/
def itemsOf : Piece → List Item
  | .literal s => s.map .char
  | .slot path => [.slot path]

/-- A scan leaves the end of the text. -/
theorem Scans.exists_before {s left : List Char} {items : List Item} (h : Scans s items left) :
    ∃ before, s = before ++ left := by
  induction h with
  | stop s => exact ⟨[], rfl⟩
  | @char c s left items _ _ ih =>
      obtain ⟨before, rfl⟩ := ih
      exact ⟨c :: before, rfl⟩
  | @slot t s left path items _ _ ih =>
      obtain ⟨before, rfl⟩ := ih
      exact ⟨t ++ before, (List.append_assoc ..).symm⟩

/-- A scan may stop before opening braces only if they open no slot, or else goes on with it. -/
theorem Scans.opens {left : List Char} {items : List Item} (h : Scans left items [])
    (hopening : opening <+: left) : Opens left := by
  cases h with
  | stop => exact absurd hopening (by decide)
  | char hc _ => exact absurd hopening hc
  | slot ht _ => exact ⟨_, _, _, ht, rfl⟩

/-- Of a scan to the end of a text, every other scan is a part. -/
theorem Scans.rest {s left : List Char} {items items' : List Item} (h : Scans s items [])
    (h' : Scans s items' left) : ∃ more, Scans left more [] := by
  induction h' generalizing items with
  | stop s => exact ⟨items, h⟩
  | @char c s left items' hc _ ih =>
      generalize hs : c :: s = whole at h
      cases h with
      | stop => cases hs
      | char _ h =>
          cases hs
          exact ih h
      | @slot t s' _ path items ht h => exact absurd (hs ▸ ht.opening_prefix s') hc
  | @slot t s left path items' ht _ ih =>
      have hopening := ht.opening_prefix s
      generalize hs : t ++ s = whole at h hopening
      cases h with
      | stop => exact absurd hopening (by decide)
      | char hc h => exact absurd hopening hc
      | slot ht' h =>
          obtain ⟨-, rfl⟩ := ht.unique ht' hs
          exact ih h

/-- The text before a word is scanned character by character, up to the word or the end. -/
theorem scans_splitBefore {s before after left : List Char} {items : List Item}
    (hsplit : splitBefore opening s = (before, after)) (h : Scans after items left) :
    Scans s (before.map .char ++ items) left := by
  induction s generalizing before with
  | nil =>
      cases hsplit
      exact h
  | cons c rest ih =>
      rw [splitBefore] at hsplit
      split at hsplit
      · cases hsplit
        exact h
      · next hword =>
          cases hsplit
          rw [Text.isSome_after?_iff] at hword
          exact .char hword (ih rfl)

/-- What follows the text before a word starts with the word, or the word does not occur. -/
theorem splitBefore_snd {word : List Char} (hword : word ≠ []) (s : List Char) :
    ((splitBefore word s).2 = [] ∧ ¬ word <:+: s) ∨
      (word <+: (splitBefore word s).2 ∧ word <:+: s) := by
  induction s with
  | nil => exact .inl ⟨rfl, by simpa using hword⟩
  | cons c rest ih =>
      rw [splitBefore]
      split
      · next h =>
          rw [Text.isSome_after?_iff] at h
          exact .inr ⟨h, h.isInfix⟩
      · next h =>
          rw [Text.isSome_after?_iff] at h
          rw [List.infix_cons_iff]
          simpa [h] using ih

/-- The pieces of a text stand for what a scan meets, and what is left is nothing or starts with
opening braces that open no slot. -/
theorem scans_readPieces {s left : List Char} {pieces : List Piece}
    (h : readPieces s = (pieces, left)) :
    Scans s (pieces.flatMap itemsOf) left ∧ (left = [] ∨ opening <+: left ∧ ¬ Opens left) := by
  fun_induction readPieces s generalizing pieces left with
  | case1 =>
      cases h
      exact ⟨.stop [], .inl rfl⟩
  | case2 c rest path after hslot hlength _ more left' hread ih =>
      cases h
      obtain ⟨hscan, hleft⟩ := ih hread
      obtain ⟨t, ht, hs⟩ := readSlot?_eq_some_iff.1 hslot
      rw [hs]
      exact ⟨.slot ht hscan, hleft⟩
  | case3 c rest path after hslot hlength =>
      -- a slot is not empty
      obtain ⟨t, ht, hs⟩ := readSlot?_eq_some_iff.1 hslot
      rw [hs, List.length_append] at hlength
      have hpos := ht.length_pos
      omega
  | case4 c rest hslot after hsplit =>
      cases h
      have hafter := splitBefore_append opening (c :: rest)
      have hnext := splitBefore_snd (by decide : opening ≠ []) (c :: rest)
      rw [hsplit] at hafter hnext
      obtain rfl : after = c :: rest := hafter
      refine ⟨.stop _, .inr ⟨?_, ?_⟩⟩
      · simpa using hnext.imp_right And.left
      · rw [opens_iff]
        rintro ⟨p, later, hread⟩
        rw [hslot] at hread
        cases hread
  | case5 c rest hslot d more after hsplit _ pieces' left' hread ih =>
      cases h
      obtain ⟨hscan, hleft⟩ := ih hread
      exact ⟨scans_splitBefore hsplit hscan, hleft⟩

/-- Text in front of the next slot is a piece of its own. -/
theorem readPieces_literal {s after left : List Char} {c : Char} {more : List Char}
    {pieces : List Piece} (hslot : readSlot? s = none)
    (hsplit : splitBefore opening s = (c :: more, after))
    (h : readPieces after = (pieces, left)) :
    readPieces s = (.literal (c :: more) :: pieces, left) := by
  cases s with
  | nil => cases hsplit
  | cons d rest =>
      rw [readPieces, hslot]
      simp only
      split
      · next hnone =>
          rw [hsplit] at hnone
          cases hnone
      · next found =>
          rw [hsplit] at found
          cases found
          rw [h]

/-- A slot is a piece. -/
theorem readPieces_slot {s after left : List Char} {path : Path} {pieces : List Piece}
    (hslot : readSlot? s = some (path, after)) (hlen : after.length < s.length)
    (h : readPieces after = (pieces, left)) : readPieces s = (.slot path :: pieces, left) := by
  cases s with
  | nil => cases hlen
  | cons c rest =>
      rw [readPieces, hslot]
      simp only [hlen, ↓reduceDIte, h]

/-- An empty text has no pieces. -/
theorem readPieces_nil : readPieces [] = ([], []) := by rw [readPieces]

/-- A slot alone is a template. -/
theorem IsSlot.parse_ofList {s : List Char} {p : Path} (h : IsSlot s p) :
    parse (String.ofList s) = .ok ⟨String.ofList s, [.slot p]⟩ := by
  have hslot : readSlot? s = some (p, []) :=
    readSlot?_eq_some_iff.2 ⟨s, h, (List.append_nil s).symm⟩
  rw [parse, String.toList_ofList, readPieces_slot hslot h.length_pos readPieces_nil]

/-- Opening braces that open no slot are an error at their byte, and they are unclosed exactly if no
closing braces follow. -/
theorem errorAt_eq (source : String) (offset : Nat) (left : List Char) :
    (errorAt source offset left).offset = offset ∧
      ((errorAt source offset left).IsUnclosed ↔ ¬ closing <:+: left.drop 2) := by
  have hnext := splitBefore_snd (by decide : closing ≠ []) (left.drop 2)
  rcases hsplit : splitBefore closing (left.drop 2) with ⟨slot, after⟩
  rw [hsplit] at hnext
  cases after with
  | nil =>
      have herror : errorAt source offset left = .unclosed source offset := by
        rw [errorAt]
        simp only [hsplit]
      have hnone : ¬ closing <:+: left.drop 2 := by simpa [closing] using hnext
      rw [herror]
      exact ⟨rfl, iff_of_true trivial hnone⟩
  | cons c after =>
      have hfound : closing <:+: left.drop 2 :=
        hnext.elim (fun h => absurd h.1 (List.cons_ne_nil c after)) And.right
      rw [errorAt]
      simp only [hsplit]
      split <;> exact ⟨rfl, iff_of_false (fun h => h) (not_not_intro hfound)⟩

/-- The text of a piece is made of the texts of its items. -/
theorem exists_fills_piece (bindings : Fields) (piece : Piece) :
    ∃ texts, List.Forall₂ (Fills bindings) (itemsOf piece) texts ∧
      renderPiece bindings piece = String.join texts := by
  cases piece with
  | literal s =>
      refine ⟨s.map String.singleton, ?_, ?_⟩
      · rw [itemsOf, List.forall₂_map_left_iff, List.forall₂_map_right_iff, List.forall₂_same]
        exact fun c _ => .char c
      · apply String.toList_injective
        simp [renderPiece, List.flatMap_map]
  | slot path =>
      cases h : path.lookup? bindings with
      | none =>
          refine ⟨[""], .cons (.missing fun v hv => ?_) .nil, by simp [renderPiece, h]⟩
          rw [Path.lookup?_eq_some_iff.2 hv] at h
          cases h
      | some v =>
          refine ⟨[v.display], .cons (.value (Path.lookup?_eq_some_iff.1 h) ?_) .nil, ?_⟩
          · exact v.hasText_display
          · simp [renderPiece, h]

/-- Pieces are filled with the texts of their items, in order. -/
theorem exists_fills (bindings : Fields) (pieces : List Piece) :
    ∃ texts, List.Forall₂ (Fills bindings) (pieces.flatMap itemsOf) texts ∧
      String.join (pieces.map (renderPiece bindings)) = String.join texts := by
  induction pieces with
  | nil => exact ⟨[], .nil, rfl⟩
  | cons piece pieces ih =>
      obtain ⟨texts, hfills, htexts⟩ := exists_fills_piece bindings piece
      obtain ⟨more, hmore, hmoreTexts⟩ := ih
      refine ⟨texts ++ more, List.rel_append hfills hmore, ?_⟩
      rw [List.map_cons, String.join_cons, String.join_append, htexts, hmoreTexts]

/-- A text is a template exactly if every pair of opening braces that a scan of it meets opens a
slot. The template is filled with the texts of what the scan meets: its characters, and the texts of
the values at the paths of its slots. Otherwise the first pair that opens no slot is reported at its
byte, and as one without closing braces exactly if none follow it. -/
theorem parse_exact (source : String) :
    ((∃ t, parse source = .ok t) ↔
      ∀ items left, Scans source.toList items left → opening <+: left → Opens left) ∧
    (∀ t, parse source = .ok t → ∃ items, Scans source.toList items [] ∧
      ∀ bindings, ∃ texts, List.Forall₂ (Fills bindings) items texts ∧
        t.render bindings = String.join texts) ∧
    (∀ e, parse source = .error e → ∃ before items left, source.toList = before ++ left ∧
      Scans source.toList items left ∧ opening <+: left ∧ ¬ Opens left ∧
      e.offset = (String.ofList before).utf8ByteSize ∧
      (e.IsUnclosed ↔ ¬ closing <:+: left.drop 2)) := by
  rcases hpieces : readPieces source.toList with ⟨pieces, left⟩
  obtain ⟨hscan, hleft⟩ := scans_readPieces hpieces
  rw [parse, hpieces]
  cases left with
  | nil =>
      refine ⟨iff_of_true ⟨_, rfl⟩ fun items left h hopening => ?_, fun t ht => ?_, fun e he => ?_⟩
      · obtain ⟨more, hmore⟩ := hscan.rest h
        exact hmore.opens hopening
      · cases ht
        exact ⟨_, hscan, fun bindings => exists_fills bindings pieces⟩
      · cases he
  | cons c left =>
      obtain ⟨hopening, hopens⟩ := hleft.resolve_left (List.cons_ne_nil c left)
      refine ⟨iff_of_false ?_ fun h => hopens (h _ _ hscan hopening), fun t ht => ?_,
        fun e he => ?_⟩
      · rintro ⟨t, ht⟩
        cases ht
      · cases ht
      · cases he
        obtain ⟨before, hbefore⟩ := hscan.exists_before
        have hoffset : Text.byteCount source.toList - Text.byteCount (c :: left) =
            (String.ofList before).utf8ByteSize := by
          rw [hbefore, Text.byteCount_append, Nat.add_sub_cancel, Text.byteCount_eq]
        have herror := errorAt_eq source
          (Text.byteCount source.toList - Text.byteCount (c :: left)) (c :: left)
        exact ⟨before, _, _, hbefore, hscan, hopening, hopens, herror.1.trans hoffset, herror.2⟩

end Template

end SeriesQuery
