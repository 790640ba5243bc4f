import SeriesQuery.Proofs.Template.Scan
import SeriesQuery.Proofs.Text.Trim

/-!
# How pieces spell a template

The text of a template is the texts of its pieces, one after the other, and so is what it is filled
with. Only slots change, so a template that starts and ends with plain text is filled with blanks at
its ends only if it has blanks there itself (`render_bare`).
-/

namespace SeriesQuery.Template

/-- A text that a piece is written with. -/
inductive Spells : Piece → List Char → Prop where
  | literal {s : List Char} (h : s ≠ []) : Spells (.literal s) s
  | slot {t : List Char} {path : Path} (h : IsSlot t path) : Spells (.slot path) t

/-- The template starts and ends with plain text, unless it is empty. -/
structure PlainEnds (t : Template) : Prop where
  first : ∀ piece ∈ t.pieces.head?, ∃ s, piece = .literal s
  last : ∀ piece ∈ t.pieces.getLast?, ∃ s, piece = .literal s

/-- The pieces of a text spell it up to where they end. -/
theorem exists_spelling {s left : List Char} {pieces : List Piece}
    (h : readPieces s = (pieces, left)) :
    ∃ texts, List.Forall₂ Spells pieces texts ∧ s = texts.flatten ++ left := by
  fun_induction readPieces s generalizing pieces left with
  | case1 =>
      cases h
      exact ⟨[], .nil, rfl⟩
  | case2 c rest path after hslot _ _ more left' hread ih =>
      cases h
      obtain ⟨texts, htexts, hafter⟩ := ih hread
      obtain ⟨t, ht, hs⟩ := readSlot?_eq_some_iff.1 hslot
      refine ⟨t :: texts, .cons (.slot ht) htexts, ?_⟩
      rw [hs, hafter, List.flatten_cons, List.append_assoc]
  | case3 c rest =>
      cases h
      exact ⟨[], .nil, rfl⟩
  | case4 c rest =>
      cases h
      exact ⟨[], .nil, rfl⟩
  | case5 c rest _ d more after hsplit _ pieces' left' hread ih =>
      cases h
      obtain ⟨texts, htexts, hafter⟩ := ih hread
      have hall := splitBefore_append opening (c :: rest)
      rw [hsplit] at hall
      refine ⟨(d :: more) :: texts, .cons (.literal (List.cons_ne_nil d more)) htexts, ?_⟩
      rw [← hall, hafter, List.flatten_cons, List.append_assoc]

/-- The pieces of a template spell its text. -/
theorem exists_spelling_of_parse {source : String} {t : Template} (h : parse source = .ok t) :
    ∃ texts, List.Forall₂ Spells t.pieces texts ∧ source.toList = texts.flatten := by
  rcases hpieces : readPieces source.toList with ⟨pieces, left⟩
  obtain ⟨texts, htexts, hsource⟩ := exists_spelling hpieces
  rw [parse, hpieces] at h
  cases left with
  | nil =>
      cases h
      exact ⟨texts, htexts, by rw [hsource, List.append_nil]⟩
  | cons c left => cases h

/-- What a template is filled with is what its pieces are. -/
theorem toList_render (t : Template) (bindings : Fields) :
    (t.render bindings).toList =
      (t.pieces.map fun piece => (renderPiece bindings piece).toList).flatten := by
  rw [render, String.toList_join, List.flatMap_map, List.flatMap_def]

/-- Texts one after the other start as the first of them, unless it is empty. -/
theorem head?_flatten_cons {s : List Char} (hs : s ≠ []) (texts : List (List Char)) :
    (s :: texts).flatten.head? = s.head? := by
  rw [List.flatten_cons, List.head?_append_of_ne_nil _ hs]

/-- Texts one after the other end as the last of them, unless it is empty. -/
theorem getLast?_flatten_concat {s : List Char} (hs : s ≠ []) (texts : List (List Char)) :
    (texts ++ [s]).flatten.getLast? = s.getLast? := by
  rw [List.flatten_concat, List.getLast?_append_of_ne_nil _ hs]

/-- Plain text is written as it is. -/
theorem Spells.of_literal {s text : List Char} (h : Spells (.literal s) text) :
    text = s ∧ s ≠ [] := by
  cases h with
  | literal hne => exact ⟨rfl, hne⟩

/-- A template that starts and ends with plain text is filled with a text that starts and ends as
it does. -/
theorem render_bare {source : String} {t : Template} (h : parse source = .ok t)
    (hends : t.PlainEnds) (hsource : Text.Bare source.toList) (bindings : Fields) :
    Text.Bare (t.render bindings).toList := by
  obtain ⟨texts, htexts, hspelled⟩ := exists_spelling_of_parse h
  have hplain (s : List Char) : (renderPiece bindings (.literal s)).toList = s :=
    String.toList_ofList
  rw [hspelled] at hsource
  rw [toList_render]
  obtain ⟨_, pieces⟩ := t
  obtain ⟨hfirst, hlast⟩ := hends
  simp only at htexts hfirst hlast ⊢
  constructor
  · cases pieces with
    | nil => simp
    | cons piece pieces =>
        obtain ⟨s, rfl⟩ := hfirst piece rfl
        obtain ⟨text, more, hpiece, -, rfl⟩ := List.forall₂_cons_left_iff.1 htexts
        obtain ⟨rfl, hne⟩ := hpiece.of_literal
        have hhead := hsource.head
        rw [head?_flatten_cons hne] at hhead
        rwa [List.map_cons, hplain, head?_flatten_cons hne]
  · rcases List.eq_nil_or_concat pieces with rfl | ⟨front, piece, rfl⟩
    · simp
    · rw [List.concat_eq_append] at htexts hlast ⊢
      obtain ⟨s, rfl⟩ := hlast piece (by rw [List.getLast?_concat]; rfl)
      -- the last piece comes first from the end
      rw [← List.forall₂_reverse_iff, List.reverse_concat] at htexts
      obtain ⟨text, more, hpiece, -, hreverse⟩ := List.forall₂_cons_left_iff.1 htexts
      obtain ⟨rfl, hne⟩ := hpiece.of_literal
      obtain rfl : texts = more.reverse ++ [text] := by
        rw [← List.reverse_reverse texts, hreverse, List.reverse_cons]
      have htail := hsource.last
      rw [getLast?_flatten_concat hne] at htail
      rwa [List.map_append, List.map_singleton, hplain, getLast?_flatten_concat hne]

end SeriesQuery.Template
