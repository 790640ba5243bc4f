import SeriesQuery.Catalog.Build
import SeriesQuery.Cli.Command
import SeriesQuery.Config.Sample
import SeriesQuery.Config.Settings
import SeriesQuery.Query.Runner
import SeriesQuery.Store.Memory
import SeriesQuery.Text.Quoted

/-!
# The command line

`Cli.run` carries out a command on a machine, which has files, variables and a clock. What it gives
is printed, or it fails with an error and the causes of it, which `CliError.report` puts below each
other.
-/

namespace SeriesQuery

/-- Why there are no settings. -/
inductive ConfigError where
  /-- The file cannot be read. -/
  | io (path reason : String)
  /-- The file is no configuration. -/
  | parse (path : String)
  deriving DecidableEq

/-- The wording of the error. -/
def ConfigError.message : ConfigError → String
  | io path reason => "Failed to read config file " ++ Text.quote path.toList ++ ": " ++ reason
  | parse path => "Failed to parse config file " ++ Text.quote path.toList ++ ": malformed TOML"

/-- Why a command fails. -/
inductive CliError where
  | config (e : ConfigError)
  | catalog (e : CatalogError)
  | query (e : QueryError)
  /-- The catalog could not be built for the store. -/
  | build (e : CatalogError)
  /-- The documents of the store could not be loaded. -/
  | fixtures (path : String) (e : StoreError)
  /-- A bound of the range is no point in time. -/
  | badTime (text : String) (e : StampError)
  /-- A variable has no value. -/
  | badVariable (text : String)
  /-- A file could not be written. -/
  | write (path reason : String)
  /-- The command was broken off. -/
  | overflow (o : Overflow)
  deriving DecidableEq

/-- The causes of an error of a store, the nearest first. -/
def StoreError.causes : StoreError → List String
  | request reason => [reason]
  | io reason => [reason]
  | _ => []

/-- The causes of an error of a catalog. -/
def CatalogError.causes : CatalogError → List String
  | template _ e => [e.message]
  | store e => e.message :: e.causes
  | _ => []

/-- The causes of an error of a query. -/
def QueryError.causes : QueryError → List String
  | template e => [e.message]
  | store e => e.message :: e.causes
  | _ => []

namespace CliError

/-- The wording of the error. -/
def message : CliError → String
  | config e => e.message
  | catalog e => e.message
  | query e => e.message
  | build _ => "failed to build target catalog"
  | fixtures path _ => "failed to load fixtures from " ++ Text.quote path.toList
  | badTime text _ => "invalid timestamp: " ++ text
  | badVariable text => "invalid variable (expected key=value): " ++ text
  | write path _ => "failed to write " ++ Text.quote path.toList
  | overflow o => o.message

/-- The causes of the error, the nearest first. -/
def causes : CliError → List String
  | config _ => []
  | catalog e => e.causes
  | query e => e.causes
  | build e => e.message :: e.causes
  | fixtures _ e => e.message :: e.causes
  | badTime _ e => [e.message]
  | badVariable _ => []
  | write _ reason => [reason]
  | overflow _ => []

/-- The overflow that broke the command off, if that is why it failed. -/
def overflow? : CliError → Option Overflow
  | overflow o => some o
  | catalog (.overflow o) => some o
  | query (.overflow o) => some o
  | build (.overflow o) => some o
  | _ => none

/-- A text whose lines after the first are indented. -/
def hang (indent : String) (s : String) : String :=
  Text.joinWith ("\n" ++ indent) ((Text.splitChars '\n' s.toList).map String.ofList)

/-- A cause with its number. -/
def numbered (i : Nat) (cause : String) : String :=
  let digits := toString i
  String.ofList (List.replicate (5 - digits.length) ' ') ++ digits ++ ": " ++ hang "       " cause

/-- The error and its causes, which are numbered if there are several. -/
def report (e : CliError) : String :=
  "Error: " ++ e.message ++
    (match e.causes with
    | [] => ""
    | [cause] => "\n\nCaused by:\n    " ++ hang "    " cause
    | causes =>
      "\n\nCaused by:\n" ++ Text.joinWith "\n" (causes.mapIdx fun i cause => numbered i cause)) ++
    "\n"

end CliError

/-- What a command needs of the machine that it runs on. -/
structure Machine (m : Type → Type) where
  /-- Reads a file, or says why not. -/
  readText : String → m (Except String String)
  /-- Writes a file, or says why not. -/
  writeText : String → String → m (Except String Unit)
  /-- Whether there is such a file. -/
  hasFile : String → m Bool
  /-- A variable of the environment. -/
  environment? : String → m (Option String)
  /-- The directory for configuration files, if there is one. -/
  configDir : m (Option String)
  /-- The present in milliseconds. -/
  now : m Int64

/-- What comes of some arguments. -/
inductive CliOutcome where
  /-- A text is printed. -/
  | printed (text : String)
  /-- The service is ready to listen at an address. -/
  | ready (address : String)
  | failed (e : CliError)
  /-- The program is broken off. -/
  | broken (o : Overflow)
  | unusable

namespace Cli

variable {m : Type → Type} [Monad m]

/-- The variables of the environment that settings look at. -/
def variableNames : List String :=
  ["BRIDGE_HOST", "BRIDGE_PORT", "BRIDGE_STORE_URL", "BRIDGE_STORE_DATABASE",
    "BRIDGE_STORE_USERNAME", "BRIDGE_STORE_PASSWORD", "BRIDGE_LOG_LEVEL", "BRIDGE_LOG_FORMAT"]

/-- Settings with the environment of a machine over them. -/
def overridden (machine : Machine m) (s : Settings) : m Settings := do
  let values ← variableNames.mapM fun name => do return (name, ← machine.environment? name)
  return s.override fun name => (values.lookup name).bind id

/-- The settings of a file, with the environment over them. -/
def loadFile (machine : Machine m) (path : String) : m (Except ConfigError Settings) := do
  match ← machine.readText path with
  | .error reason => return .error (.io path reason)
  | .ok text =>
    match Settings.parse? text with
    | none => return .error (.parse path)
    | some s => return .ok (← overridden machine s)

/-- The settings of the first of some files that is there and can be used, or of none. -/
def loadFirst (machine : Machine m) : List String → m Settings
  | [] => overridden machine Settings.default
  | path :: paths => do
    if ← machine.hasFile path then
      match ← loadFile machine path with
      | .ok s => return s
      | .error _ => loadFirst machine paths
    else loadFirst machine paths

/-- The settings for a command: of a file that was named, or else of the usual places. -/
def load (machine : Machine m) (config : Option String) : m (Except ConfigError Settings) := do
  match config with
  | some path => loadFile machine path
  | none =>
    let own := (← machine.configDir).map fun dir => dir ++ "/chronicle-bridge/config.toml"
    return .ok
      (← loadFirst machine (own.toList ++ ["/etc/chronicle-bridge/config.toml", "./config.toml"]))

/-- A line for every target: its name, its collection and its aggregation. -/
def listTargets (s : Settings) : Except CliError String := do
  let catalog ← (Catalog.expand s.datasource).mapError CliError.catalog
  return String.join (catalog.definitions.map fun d =>
    d.name ++ "\t" ++ d.collection ++ "\t" ++ d.aggregation.name ++ "\n")

/-- The point in time that an argument names: milliseconds, or a date and a time with an offset. -/
def parseTime (s : String) : Except CliError Int64 :=
  match Text.parseInt64? s.toList with
  | some t => .ok t
  | none =>
    match Stamp.instant s with
    | .ok t => .ok (Int64.ofInt t)
    | .error e => .error (.badTime s e)

/-- Six hours in milliseconds. -/
def defaultSpan : Int64 := 6 * 3600000

/-- The range between two arguments; it ends at the present and starts six hours before its end,
where nothing else is said. -/
def compileRange (now : Int64) (start stop : Option String) : Except CliError TimeRange := do
  let stop ← match stop with
    | some s => parseTime s
    | none => pure now
  let start ← match start with
    | some s => parseTime s
    | none => (Word.sub stop defaultSpan).mapError CliError.overflow
  match TimeRange.ofBounds? start stop with
  | some range => return range
  | none => throw (.query (.invalidRange start stop))

/-- A variable with one value more: the first is the value, and several are an array. -/
def addValue (old : Option ScopedVariable) (value : String) : ScopedVariable :=
  match old with
  | none => ⟨none, .str value⟩
  | some ⟨text, .null⟩ => ⟨text, .str value⟩
  | some ⟨text, .arr values⟩ => ⟨text, .arr (values ++ [.str value])⟩
  | some ⟨text, previous⟩ => ⟨text, .arr [previous, .str value]⟩

/-- The name and the value of an argument, cut at its first equals sign. -/
def splitVariable (s : String) : Except CliError (String × String) :=
  let name := s.toList.takeWhile (· != '=')
  match s.toList.drop name.length with
  | '=' :: value => .ok (String.ofList (Text.trimChars name), String.ofList value)
  | _ => .error (.badVariable s)

/-- The variables of some arguments. -/
def parseVars (vars : List String) : Except CliError ScopedVars :=
  vars.foldlM
    (fun known pair => do
      let (name, value) ← splitVariable pair
      return Dict.insert known name (addValue (Dict.get? known name) value))
    []

/-- The name and the query of a plan. -/
def showPlan (p : PlannedTarget) : String :=
  "-- " ++ p.displayName ++ "\n\x7b\n  \"query\": " ++ Json.quoted p.plan.toQuery.text ++
    ",\n  \"bindVars\": " ++ (Json.obj p.plan.toQuery.bindVars).pretty 1 ++ "\n\x7d\n"

/-- The queries of a target. -/
def compileTarget (now : Int64) (s : Settings) (o : CompileOptions) : Except CliError String := do
  let range ← compileRange now o.start o.stop
  let catalog ← (Catalog.expand s.datasource).mapError CliError.catalog
  let scopedVars ← parseVars o.assignments
  let query : TargetQuery := ⟨o.target, if o.table then .table else .series, none⟩
  let plans ← ((Runner.ofDatasource s.datasource catalog).plan
    ⟨range, o.interval, [query], scopedVars⟩).mapError CliError.query
  return String.join (plans.map showPlan)

/-- Prints the sample configuration, or writes it to a file. -/
def sampleConfig (machine : Machine m) (output : Option String) : m CliOutcome := do
  match output with
  | none => return .printed Settings.sample
  | some path =>
    match ← machine.writeText path Settings.sample with
    | .ok _ => return .printed ("Config written to " ++ Text.quote path.toList ++ "\n")
    | .error reason => return .failed (.write path reason)

/-- The documents of a store in memory. -/
def loadFixtures (machine : Machine m) (s : Settings) : m (Except CliError MemoryStore) := do
  match s.store.fixtures with
  | none => return .ok MemoryStore.empty
  | some path =>
    match ← machine.readText path with
    | .error reason => return .error (.fixtures path (.io reason))
    | .ok text =>
      match MemoryStore.ofText text with
      | .ok store => return .ok store
      | .error e => return .error (.fixtures path (.decode e))

/-- What comes of a command that fails. -/
def failure (e : CliError) : CliOutcome :=
  match e.overflow? with
  | some o => .broken o
  | none => .failed e

/-- Gets the service ready over a store. -/
def start {σ : Type} (s : Settings) (store : DocumentStore σ) (state : σ) : CliOutcome :=
  match (Catalog.build s.datasource store state).1 with
  | .ok _ => .ready s.server.address
  | .error e => failure (.build e)

/-- Gets the service ready. -/
def serve (machine : Machine m) (s : Settings) (network : Network) : m CliOutcome := do
  match s.store.backend with
  | .arango => return start s (Arango.operations s.store.server) network
  | .memory =>
    match ← loadFixtures machine s with
    | .ok store => return start s MemoryStore.operations store
    | .error e => return .failed e

/-- What comes of a computation that prints. -/
def outcome : Except CliError String → CliOutcome
  | .ok text => .printed text
  | .error e => failure e

/-- Carries out a command with settings. -/
def execute (machine : Machine m) (network : Network) (s : Settings) : Command → m CliOutcome
  | .serve => serve machine s network
  | .targets => return outcome (listTargets s)
  | .compile o => return outcome (compileTarget (← machine.now) s o)
  | .config output => sampleConfig machine output

/-- Does what some arguments ask for. -/
def run (machine : Machine m) (network : Network) (args : List String) : m CliOutcome := do
  match Invocation.ofArgs args with
  | .unusable => return .unusable
  | .print text => return .printed text
  | .run _ (.config output) => sampleConfig machine output
  | .run config c =>
    match ← load machine config with
    | .ok s => execute machine network s c
    | .error e => return .failed (.config e)

end Cli

end SeriesQuery
