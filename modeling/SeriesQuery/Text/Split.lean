import SeriesQuery.Text.Blank

/-!
# Lists written with commas

A list is a text cut at every comma, each item without the blanks around it.
-/

namespace SeriesQuery.Text

/-- The runs of characters between separators: one more than there are separators. -/
def splitChars (sep : Char) : List Char → List (List Char)
  | [] => [[]]
  | c :: rest =>
    if c = sep then [] :: splitChars sep rest
    else
      match splitChars sep rest with
      | [] => [[c]]
      | first :: more => (c :: first) :: more

/-- The trimmed items of a list written with commas. -/
def items (s : String) : List String :=
  (splitChars ',' s.toList).map fun item => String.ofList (trimChars item)

/-- A text without blanks at its ends, if anything is left. -/
def nonBlank? (s : Option String) : Option String :=
  (s.map trim).filter (· ≠ "")

/-- Texts with a separator between neighbours. -/
def joinWith (sep : String) : List String → String
  | [] => ""
  | [s] => s
  | s :: more => s ++ sep ++ joinWith sep more

end SeriesQuery.Text
