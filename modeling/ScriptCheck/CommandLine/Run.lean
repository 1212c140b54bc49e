import ScriptCheck.CommandLine.Arguments
import ScriptCheck.Report
import ScriptCheck.Text.Decoding

/-! # A Run of the Command Line

  A run finds and reads the settings, reads the source file, and writes a report
  on it. It is a function of the request and of the files as they are. A failure
  on the way comes before anything is written; a source text with errors is
  written about in full and is a failure after that.

  What the text of a settings file states is not decided here: every definition
  that reads one is given the reader `toml`, which has settings for the texts that
  it accepts and nothing for the others.
-/

namespace ScriptCheck.CommandLine

/-! ## Section 1: Files -/

/-- What a path leads to. -/
inductive Entry where
  | missing
  | directory
  /-- The path goes through a file as if it were a directory. -/
  | notDirectory
  | file (bytes : ByteArray)

structure Files where
  /-- What each path leads to. -/
  entry : String → Entry
  /-- Where the platform keeps settings of this program, if it keeps any. -/
  platformSettings : Option String

namespace Files

def read (files : Files) (path : String) : Except FileFailure ByteArray :=
  match files.entry path with
  | .missing => .error .missing
  | .directory => .error .isDirectory
  | .notDirectory => .error .notDirectory
  | .file bytes => .ok bytes

def isFile (files : Files) (path : String) : Bool :=
  match files.entry path with
  | .file _ => true
  | _ => false

end Files

/-! ## Section 2: Settings -/

/-- The settings file of the working directory. -/
def localSettings : String := "quill/config.toml"

/-- The settings file that counts: the one that is named, whether it exists or not; else the one of
    the working directory; else the one of the platform. -/
def settingsPath? (files : Files) (named : Option String) : Option String :=
  match named with
  | some path => some path
  | none =>
    if files.isFile localSettings then some localSettings
    else files.platformSettings.filter files.isFile

def readSettings (toml : String → Option Settings) (files : Files) (path : String) :
    Except FileFailure Settings :=
  match files.read path with
  | .error .missing => .error (.settingsMissing path)
  | .error failure => .error failure
  | .ok bytes =>
    match String.fromUTF8? bytes with
    | none => .error .notText
    | some text =>
      match toml text with
      | none => .error (.settingsInvalid path)
      | some settings => .ok settings

/-- The settings of a run; without a file, those that hold by themselves. -/
def loadSettings (toml : String → Option Settings) (files : Files) (named : Option String) :
    Except FileFailure Settings :=
  match settingsPath? files named with
  | none => .ok {}
  | some path => readSettings toml files path

def readSource (files : Files) (path : String) : Except FileFailure String :=
  (files.read path).map Text.decodeSource

/-! ## Section 3: Runs -/

def render (mode : Mode) (analyzer : Analyzer) (source : String) : String :=
  match mode with
  | .lexical => Report.lexical (analyzer.list source)
  | .check => Report.syntaxCheck (analyzer.parse source)
  | .full => Report.analysis (analyzer.analyze source)

/-- What a run wrote, and how it failed, if it did. -/
structure Outcome where
  written : String
  failure : Option Failure

/-- The failure that a source text with errors is, in the modes that check it. -/
def rejection (mode : Mode) (analyzer : Analyzer) (source : String) : Option Failure :=
  match mode, analyzer.check source with
  | .lexical, _ => none
  | _, .ok _ => none
  | _, .error failure => some failure

/-- What a run needs before it can write: an analyzer and a source text. -/
def prepare (toml : String → Option Settings) (files : Files) (request : Request) :
    Except Failure (Analyzer × String) := do
  let settings ← (loadSettings toml files request.config).mapError Failure.file
  let source ← (readSource files request.input).mapError Failure.file
  let analyzer ← (Analyzer.ofSettings settings).mapError Failure.settings
  return (analyzer, source)

/-- Run a request on the files as they are. -/
def run (toml : String → Option Settings) (files : Files) (request : Request) : Outcome :=
  match prepare toml files request with
  | .error failure => ⟨"", some failure⟩
  | .ok (analyzer, source) =>
    ⟨render request.mode analyzer source, rejection request.mode analyzer source⟩

end ScriptCheck.CommandLine
