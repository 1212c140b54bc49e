import ScriptCheck.CommandLine.Run
import ScriptCheck.Settings.File

/-! # The Command

  The outermost layer: it takes the arguments and the environment, looks at the
  files that a run can ask for, says how a settings file is read, and prints what
  the run gives back. The report goes to standard output and failures go to
  standard error.
-/

namespace ScriptCheck

open CommandLine

def usage : String :=
  "Usage: script-check [OPTIONS] <INPUT>\n\n"
    ++ "Arguments:\n"
    ++ "  <INPUT>  Path to the input file\n\n"
    ++ "Options:\n"
    ++ "  -m, --mode <MODE>            Analysis to run: lexical, syntax or full [default: full]\n"
    ++ "  -c, --config <CONFIG>        Path to configuration file (TOML)\n"
    ++ "      --log-level <LOG_LEVEL>  Log level [default: warn]\n"
    ++ "  -h, --help                   Print help\n"
    ++ "  -V, --version                Print version\n"

def CommandLine.Refusal.message : Refusal → String
  | .missingInput => "error: no input is named"
  | .invalidValue => "error: an option has no value, or an invalid one"
  | .unknownArgument => "error: unexpected argument"
  | .repeated => "error: an option is given twice"
  | .unneededValue => "error: an option takes no value"
  | .help => usage
  | .version => "script-check 0.1.0"

def observe (path : String) : IO Entry := do
  try
    return .file (← IO.FS.readBinFile path)
  catch
    | .noFileOrDirectory .. => return .missing
    | .inappropriateType _ code _ => return if code = 20 then .notDirectory else .directory
    | failure => throw failure

/-- Where the platform keeps the settings of this program. -/
def platformSettings : IO (Option String) := do
  match ← IO.getEnv "XDG_CONFIG_HOME" with
  | some directory => return some (directory ++ "/" ++ localSettings)
  | none =>
    match ← IO.getEnv "HOME" with
    | some directory => return some (directory ++ "/.config/" ++ localSettings)
    | none => return none

/-- The files that a request can ask for, as they are now. -/
def observeFiles (request : Request) : IO Files := do
  let platform ← platformSettings
  let paths := [request.input, localSettings] ++ request.config.toList ++ platform.toList
  let seen ← paths.mapM fun path => return (path, ← observe path)
  return ⟨fun path => (seen.lookup path).getD .missing, platform⟩

end ScriptCheck

open ScriptCheck ScriptCheck.CommandLine in
def main (arguments : List String) : IO UInt32 := do
  match parseArguments arguments with
  | .error .help => IO.print usage; return 0
  | .error .version => IO.println (Refusal.message .version); return 0
  | .error refusal => IO.eprintln refusal.message; return 2
  | .ok request =>
    let outcome := run Settings.ofToml? (← observeFiles request) request
    IO.print outcome.written
    match outcome.failure with
    | none => return 0
    | some failure =>
      for report in failure.reports failure.source? do
        IO.eprintln report.title
      return 1
