import SeriesQuery.Cli.Args

/-!
# Commands

The commands of the program, what each takes, and the texts that help with them. `Invocation.ofArgs`
says what some arguments ask for.
-/

namespace SeriesQuery

/-- What is to be compiled. -/
structure CompileOptions where
  target : String
  start : Option String
  stop : Option String
  /-- Width of a bucket in milliseconds. -/
  interval : Int64
  table : Bool
  /-- Variables, each a name and a value. -/
  assignments : List String

/-- The commands. -/
inductive Command where
  /-- Answers queries over HTTP. -/
  | serve
  /-- Lists all targets. -/
  | targets
  /-- Prints the queries of a target. -/
  | compile (options : CompileOptions)
  /-- Prints or writes a configuration. -/
  | config (output : Option String)

/-- What some arguments ask for. -/
inductive Invocation where
  /-- A command, perhaps with a configuration file. -/
  | run (config : Option String) (c : Command)
  /-- A text. -/
  | print (text : String)
  /-- Nothing that can be done. -/
  | unusable

namespace Command

/-- The option that asks for help. -/
def helpOption : OptionSpec := ⟨"help", some 'h', .flag⟩

/-- The option for a configuration file. -/
def configOption : OptionSpec := ⟨"config", some 'c', .path⟩

/-- The names of the commands, and what each does. -/
def summaries : List (String × String) :=
  [("serve", "Run the HTTP server"),
    ("targets", "List every target the configuration expands to"),
    ("compile", "Print the AQL a target compiles to"),
    ("config", "Generate default config file"),
    ("help", "Print this message or the help of the given subcommand(s)")]

/-- What the program takes. -/
def programSpec : CommandSpec where
  options := [configOption, helpOption, ⟨"version", some 'V', .flag⟩]
  takesWord := false
  commands := summaries.map Prod.fst

/-- What a command takes. -/
def spec (name : String) : CommandSpec :=
  let own : List OptionSpec :=
    if name = "compile" then
      [⟨"from", none, .text⟩, ⟨"to", none, .text⟩, ⟨"interval-ms", none, .integer⟩,
        ⟨"table", none, .flag⟩, ⟨"var", some 'V', .texts⟩]
    else if name = "config" then [⟨"output", some 'o', .path⟩]
    else []
  { options := own ++ [configOption, helpOption]
    takesWord := name = "compile"
    commands := [] }

/-- A table of two columns, two blanks apart, after two blanks. -/
def columns (rows : List (String × String)) : String :=
  let width := (rows.map fun (left, _) => left.length).foldl Nat.max 0
  String.join (rows.map fun (left, right) =>
    "  " ++ left ++ String.ofList (List.replicate (width - left.length + 2) ' ') ++ right ++ "\n")

/-- The line for a configuration file. -/
def configRow : String × String :=
  ("-c, --config <CONFIG>", "Config file (default: search the standard locations)")

/-- The line for help. -/
def helpRow : String × String := ("-h, --help", "Print help")

/-- The options of a command, as they are listed. -/
def optionRows (name : String) : List (String × String) :=
  if name = "compile" then
    [("    --from <FROM>", "Range start: epoch ms or RFC 3339 (default: 6 hours ago)"),
      ("    --to <TO>", "Range end: epoch ms or RFC 3339 (default: now)"),
      ("    --interval-ms <INTERVAL_MS>", "Bucket width in milliseconds [default: 60000]"),
      ("    --table", "Compile for a table response"),
      configRow,
      ("-V, --var <VARS>",
        "Dashboard variable in key=value format, repeat a key for multi-value"),
      helpRow]
  else if name = "config" then
    [("-o, --output <OUTPUT>", "Output path (default: stdout)"), configRow, helpRow]
  else [configRow, helpRow]

/-- The list of commands. -/
def commandList : String := "Commands:\n" ++ columns summaries

/-- The text that helps with the program. -/
def programHelp : String :=
  "Grafana SimpleJSON datasource for ArangoDB\n\nUsage: chronicle-bridge [OPTIONS] <COMMAND>\n\n" ++
    commandList ++ "\nOptions:\n" ++
    columns [configRow, helpRow, ("-V, --version", "Print version")]

/-- The text that helps with a command. -/
def helpText (name : String) : String :=
  let summary := (summaries.lookup name).getD ""
  let usage := summary ++ "\n\nUsage: chronicle-bridge " ++ name
  if name = "help" then
    usage ++ " [COMMAND]...\n\nArguments:\n" ++
      columns [("[COMMAND]...", "Print help for the subcommand(s)")]
  else
    usage ++ " [OPTIONS]" ++
      (if name = "compile" then
        " <TARGET>\n\nArguments:\n  <TARGET>  Target name from the catalog\n"
      else "\n") ++
      "\nOptions:\n" ++ columns (optionRows name)

/-- The text for the version. -/
def versionText : String := "chronicle-bridge 0.1.0\n"

/-- The command with some arguments; nothing if its word is missing. -/
def ofArgs? (name : String) (a : Args) : Option Command :=
  if name = "serve" then some .serve
  else if name = "targets" then some .targets
  else if name = "config" then some (.config (a.value? "output"))
  else
    a.word.map fun target =>
      .compile
        { target
          start := a.value? "from"
          stop := a.value? "to"
          interval := ((a.value? "interval-ms").bind fun v => Text.parseInt64? v.toList).getD 60000
          table := !(a.values "table").isEmpty
          assignments := a.values "var" }

end Command

namespace Invocation

/-- What a request for help with some command asks for. -/
def ofHelp : List String → Invocation
  | [] => print Command.programHelp
  | [name] =>
    if (Command.summaries.lookup name).isSome then print (Command.helpText name) else unusable
  | _ => unusable

/-- What the arguments of a command ask for; `config` is the configuration file that was given
before its name. -/
def ofCommand (config : Option String) (name : String) (args : List String) : Invocation :=
  match Args.read (Command.spec name) (args.length + 1) Args.none args with
  | .complete a =>
    match Command.ofArgs? name a with
    | some c => run ((a.value? "config").or config) c
    | none => unusable
  | .help => print (Command.helpText name)
  | _ => unusable

/-- What some arguments ask for. -/
def ofArgs (args : List String) : Invocation :=
  match Args.read Command.programSpec (args.length + 1) Args.none args with
  | .command a name rest =>
    if name = "help" then ofHelp rest else ofCommand (a.value? "config") name rest
  | .help => print Command.programHelp
  | .version => print Command.versionText
  | _ => unusable

end Invocation

end SeriesQuery
