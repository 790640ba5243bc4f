import SeriesQuery.Cli
import Std.Time.DateTime.Timestamp

/-!
# The program

The command line on the machine that it runs on. Everything that is decided is decided in `Cli.run`;
here files are read and written, and texts are printed.
-/

namespace SeriesQuery

/-- The reason why a file cannot be used. -/
def ioReason : IO.Error → String
  | .noFileOrDirectory .. => "No such file or directory (os error 2)"
  | .permissionDenied .. => "Permission denied (os error 13)"
  | .inappropriateType .. => "Is a directory (os error 21)"
  | e => toString e

/-- The directory for configuration files of the user. -/
def userConfigDir : IO (Option String) := do
  match ← IO.getEnv "XDG_CONFIG_HOME" with
  | some dir => if dir.startsWith "/" then return some dir
  | none => pure ()
  return (← IO.getEnv "HOME").bind fun home => if home = "" then none else some (home ++ "/.config")

/-- The machine that the program runs on. -/
def localMachine : Machine IO where
  readText path := do
    match ← (IO.FS.readFile path).toBaseIO with
    | .ok text => return .ok text
    | .error e => return .error (ioReason e)
  writeText path text := do
    match ← (IO.FS.writeFile path text).toBaseIO with
    | .ok _ => return .ok ()
    | .error e => return .error (ioReason e)
  hasFile path := do
    match ← (IO.FS.readFile path).toBaseIO with
    | .ok _ => return true
    | .error _ => return false
  environment? := fun name => IO.getEnv name
  configDir := userConfigDir
  now := do
    let t ← Std.Time.Timestamp.now
    return Int64.ofInt t.toMillisecondsSinceUnixEpoch.val

end SeriesQuery

/-- Carries out the command that the arguments ask for. -/
def main (args : List String) : IO UInt32 := do
  match ← SeriesQuery.Cli.run SeriesQuery.localMachine SeriesQuery.Network.closed args with
  | .printed text =>
    IO.print text
    return 0
  | .ready address =>
    IO.eprintln ("Error: no listener for " ++ address)
    return 1
  | .failed e =>
    IO.eprint e.report
    return 1
  | .broken o =>
    IO.eprintln o.message
    return 101
  | .unusable =>
    IO.eprintln ("error: unusable arguments\n\n" ++ SeriesQuery.Command.programHelp)
    return 2
