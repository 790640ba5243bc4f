import SeriesQuery.Text.HiddenRanges
import SeriesQuery.Text.Letter

/-!
# Texts in quotation marks

`quote` shows a text so that each of its characters can be told: quotation marks, backslashes and
the usual controls have short escapes, and a character without a visible form is written by its
number.
-/

namespace SeriesQuery.Text

/-- Lower-case hexadecimal digits of a number. -/
def hex (n : Nat) : List Char := Nat.toDigits 16 n

/-- Whether a character is written by its number. -/
def isHidden (c : Char) : Bool :=
  if c.toNat < 128 then c.toNat < 32 || c.toNat == 127 else inRanges hiddenRanges c.toNat

/-- One character between quotation marks. -/
def quoteChar (c : Char) : List Char :=
  if c = '"' then ['\\', '"']
  else if c = '\\' then ['\\', '\\']
  else if c = '\n' then ['\\', 'n']
  else if c = '\r' then ['\\', 'r']
  else if c = '\t' then ['\\', 't']
  else if c.toNat = 0 then ['\\', '0']
  else if isHidden c then ['\\', 'u', '\x7b'] ++ hex c.toNat ++ ['\x7d']
  else [c]

/-- The text between quotation marks. -/
def quote (s : List Char) : String := String.ofList ('"' :: (s.flatMap quoteChar ++ ['"']))

end SeriesQuery.Text
