import SeriesQuery.Text.Letter

/-!
# Arguments of the command line

A command has options, which may come in any order, and at most one word of its own. `Args.read`
takes them up to a request for help or for the version, to the name of a command below, or to the
end; an option that is unknown, repeated, or without its value makes the arguments unusable.
-/

namespace SeriesQuery

/-- What the value of an option has to be. -/
inductive OptionKind where
  /-- There is no value. -/
  | flag
  /-- Any text, as often as wanted. -/
  | texts
  /-- A text. -/
  | text
  /-- A path, which is not empty. -/
  | path
  /-- A signed 64-bit integer. -/
  | integer
  deriving DecidableEq

/-- An option of a command. -/
structure OptionSpec where
  long : String
  short : Option Char
  kind : OptionKind

/-- The arguments that a command takes. -/
structure CommandSpec where
  options : List OptionSpec
  /-- Whether a word is wanted. -/
  takesWord : Bool
  /-- The commands below. -/
  commands : List String

/-- What the arguments of a command say. -/
structure Args where
  /-- The options with their values, in order. -/
  given : List (String × String)
  /-- The word. -/
  word : Option String

/-- How the arguments of a command end. -/
inductive ArgsEnd where
  /-- With the last argument. -/
  | complete (args : Args)
  /-- With the name of a command below, before its own arguments. -/
  | command (args : Args) (name : String) (rest : List String)
  /-- With a request for help. -/
  | help
  /-- With a request for the version. -/
  | version
  /-- They cannot be used. -/
  | unusable

namespace Args

/-- No arguments. -/
def none : Args := ⟨[], .none⟩

/-- The values of an option, in order. -/
def values (a : Args) (name : String) : List String :=
  (a.given.filter fun (n, _) => n == name).map Prod.snd

/-- The value of an option that is given at most once. -/
def value? (a : Args) (name : String) : Option String := (a.values name).head?

/-- Whether an option may have a value. -/
def OptionKind.accepts : OptionKind → String → Bool
  | .path, v => v != ""
  | .integer, v => (Text.parseInt64? v.toList).isSome
  | _, _ => true

/-- The arguments with an option added; nothing if it cannot have the value, or not again. -/
def add? (a : Args) (o : OptionSpec) (v : String) : Option Args :=
  if OptionKind.accepts o.kind v && (o.kind == .texts || (a.values o.long).isEmpty) then
    some { a with given := a.given ++ [(o.long, v)] }
  else Option.none

/-- Whether an argument is an option and no value. -/
def looksLikeOption (arg : String) : Bool :=
  match arg.toList with
  | '-' :: _ :: _ => true
  | _ => false

/-- What one argument leads to. -/
inductive Step where
  /-- To the arguments after it. -/
  | next (a : Args) (rest : List String)
  /-- To an end. -/
  | stop (e : ArgsEnd)

/-- An option that takes its value from the next argument. -/
def valueFromNext (a : Args) (o : OptionSpec) (rest : List String) : Step :=
  match rest with
  | [] => .stop .unusable
  | v :: rest =>
    if looksLikeOption v then .stop .unusable
    else
      match a.add? o v with
      | some a => .next a rest
      | Option.none => .stop .unusable

/-- An option with a value of its own. -/
def ownValue (a : Args) (o : OptionSpec) (v : String) (rest : List String) : Step :=
  match a.add? o v with
  | some a => .next a rest
  | Option.none => .stop .unusable

/-- An option that is written out, after its two dashes. -/
def longOption (spec : CommandSpec) (a : Args) (arg : List Char) (rest : List String) : Step :=
  let name := String.ofList (arg.takeWhile (· != '='))
  let own := (arg.drop name.length).drop 1
  match spec.options.find? fun o => o.long == name with
  | Option.none => .stop .unusable
  | some o =>
    if o.kind == .flag then
      if arg.contains '=' then .stop .unusable
      else if o.long = "help" then .stop .help
      else if o.long = "version" then .stop .version
      else ownValue a o "" rest
    else if arg.contains '=' then ownValue a o (String.ofList own) rest
    else valueFromNext a o rest

/-- Options that are single letters, after their dash; the rest of the letters is the value of the
first option that takes one. -/
def shortOptions (spec : CommandSpec) (rest : List String) : Args → List Char → Step
  | a, [] => .next a rest
  | a, c :: cs =>
    match spec.options.find? fun o => o.short == some c with
    | Option.none => .stop .unusable
    | some o =>
      if o.kind == .flag then
        if o.long = "help" then .stop .help
        else if o.long = "version" then .stop .version
        else
          match a.add? o "" with
          | some a => shortOptions spec rest a cs
          | Option.none => .stop .unusable
      else
        match cs with
        | [] => valueFromNext a o rest
        | '=' :: v => ownValue a o (String.ofList v) rest
        | v => ownValue a o (String.ofList v) rest

/-- A word. -/
def wordStep (spec : CommandSpec) (a : Args) (arg : String) (rest : List String) : Step :=
  if spec.takesWord && a.word.isNone then .next { a with word := some arg } rest
  else .stop .unusable

/-- What the first argument leads to. -/
def step (spec : CommandSpec) (a : Args) (arg : String) (rest : List String) : Step :=
  if spec.commands.contains arg then .stop (.command a arg rest)
  else
    match arg.toList with
    | '-' :: '-' :: name => longOption spec a name rest
    | '-' :: c :: cs => shortOptions spec rest a (c :: cs)
    | _ => wordStep spec a arg rest

/-- Reads words only. -/
def readWords (spec : CommandSpec) : Args → List String → ArgsEnd
  | a, [] => .complete a
  | a, arg :: rest =>
    if spec.takesWord && a.word.isNone then readWords spec { a with word := some arg } rest
    else .unusable

/-- Reads the arguments of a command; after two dashes there are only words. -/
def read (spec : CommandSpec) : (fuel : Nat) → Args → List String → ArgsEnd
  | 0, _, _ => .unusable
  | _, a, [] => .complete a
  | fuel + 1, a, arg :: rest =>
    if arg = "--" then readWords spec a rest
    else
      match step spec a arg rest with
      | .next a rest => read spec fuel a rest
      | .stop e => e

end Args

end SeriesQuery
