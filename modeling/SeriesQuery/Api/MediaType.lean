import SeriesQuery.Text.Letter

/-!
# Media types

A media type has a type, a subtype and parameters. `MediaType.isJson` says whether a header
announces the data format: an application type whose subtype or whose suffix is that of the format.
A header that is not all ASCII announces nothing.
-/

namespace SeriesQuery.MediaType

/-- Whether a character may stand in a type, a subtype, or the name or value of a parameter. -/
def isTokenChar (c : Char) : Bool :=
  Text.isAsciiAlphanumeric c ||
    ['!', '#', '$', '%', '&', '\'', '*', '+', '-', '.', '^', '_', '\x60', '|', '~'].contains c

/-- Whether a character may stand in a quoted value. -/
def isQuotedChar (c : Char) : Bool := 31 < c.toNat && c.toNat != 127

/-- The parameters after a quoted value, if only blanks precede a semicolon or the end. -/
def afterQuoted (s : List Char) : Option (List Char) :=
  match s.dropWhile (· == ' ') with
  | [] => some []
  | ';' :: rest => some rest
  | _ => none

/-- The parameters after a value. A quoted value is not empty: a quotation mark at its start is its
first character. -/
def afterValue (s : List Char) : Option (List Char) :=
  match s with
  | '"' :: first :: rest =>
    match rest.dropWhile fun c => c != '"' && isQuotedChar c with
    | '"' :: rest => if isQuotedChar first then afterQuoted rest else none
    | _ => none
  | _ =>
    match s.takeWhile isTokenChar, s.dropWhile isTokenChar with
    | _, [] => some []
    | _ :: _, ';' :: rest => some rest
    | _, _ => none

/-- Whether a text is a list of parameters, each a name and a value. -/
def areParameters : (fuel : Nat) → List Char → Bool
  | 0, _ => false
  | fuel + 1, s =>
    match s.dropWhile (· == ' ') with
    | [] => true
    | s =>
      match s.takeWhile isTokenChar, s.dropWhile isTokenChar with
      | _ :: _, '=' :: rest =>
        match afterValue rest with
        | some rest => areParameters fuel rest
        | none => false
      | _, _ => false

/-- A subtype cut at its last plus sign, which does not come first. -/
def suffix? (subtype : List Char) : Option (List Char × List Char) :=
  let back := subtype.reverse
  let suffix := back.takeWhile (· != '+')
  match (back.drop suffix.length).drop 1 with
  | [] => none
  | front => some (front.reverse, suffix.reverse)

/-- Whether a text is this word in some letter case. -/
def isWord (word : String) (s : List Char) : Bool := s.map Char.toLower == word.toList

/-- Whether a header announces the data format. -/
def isJson (header : String) : Bool :=
  let s := header.toList
  match s.dropWhile isTokenChar with
  | '/' :: rest =>
    let subtype := rest.takeWhile isTokenChar
    let named :=
      match suffix? subtype with
      | some (front, suffix) => isWord "json" front || isWord "json" suffix
      | none => isWord "json" subtype
    let complete :=
      match rest.dropWhile isTokenChar with
      | [] => true
      | c :: parameters => c == ';' && areParameters (parameters.length + 1) parameters
    s.all (fun c => c.toNat < 128) && isWord "application" (s.takeWhile isTokenChar) && named &&
      complete
  | _ => false

end SeriesQuery.MediaType
