import ScriptCheck.Diagnostic
import ScriptCheck.Token.Vocabulary

/-! # Failures

  A run ends early for one of three causes: a file that cannot be used, settings
  that ask for the impossible, or a source text with errors in it. A failure of
  the last kind keeps the text, so that its diagnostics can be shown on it.

  For display a failure is split into reports. A text with errors gives one
  report for each diagnostic, as long as the text is at hand; anything else is a
  single report.
-/

namespace ScriptCheck

/-! ## Section 1: Causes -/

inductive FileFailure where
  /-- There is no such file. -/
  | missing
  /-- The path names a directory. -/
  | isDirectory
  /-- The path goes through a file as if it were a directory. -/
  | notDirectory
  /-- A settings file is not well-formed UTF-8. -/
  | notText
  /-- The settings file that was asked for does not exist. -/
  | settingsMissing (path : String)
  /-- The text of a settings file does not give settings. -/
  | settingsInvalid (path : String)
  deriving DecidableEq, Repr

/-- The class of a file failure, as a system reports it. -/
inductive FileFailureKind where
  | notFound
  | isADirectory
  | notADirectory
  | invalidData
  deriving DecidableEq, Repr

namespace FileFailure

def kind : FileFailure → FileFailureKind
  | .missing => .notFound
  | .isDirectory => .isADirectory
  | .notDirectory => .notADirectory
  | .notText => .invalidData
  | .settingsMissing _ => .notFound
  | .settingsInvalid _ => .invalidData

def message : FileFailure → String
  | .missing => "No such file or directory (os error 2)"
  | .isDirectory => "Is a directory (os error 21)"
  | .notDirectory => "Not a directory (os error 20)"
  | .notText => "stream did not contain valid UTF-8"
  | .settingsMissing path => s!"configuration file not found: {path}"
  | .settingsInvalid path => s!"invalid configuration in {path}"

end FileFailure

inductive Failure where
  /-- A file could not be used. -/
  | file (cause : FileFailure)
  /-- A word cannot be reserved. -/
  | settings (cause : UnreadableWord)
  /-- The source text has errors. -/
  | rejected (diagnostics : List Diagnostic) (source : String)
  deriving DecidableEq, Repr

namespace Failure

def message : Failure → String
  | .file cause => s!"I/O error: {cause.message}"
  | .settings cause => s!"Configuration error: {cause.message}"
  | .rejected diagnostics _ => summarize diagnostics

/-- The code under which a failure without a place in a text is reported. -/
def code : Failure → String
  | .file _ => "quill::io"
  | .settings _ => "quill::config"
  | .rejected _ _ => "quill::syntax"

/-- What lies behind a failure, where that is not the failure itself. -/
def cause? : Failure → Option String
  | .file cause => some cause.message
  | .settings cause => some cause.message
  | .rejected _ _ => none

/-- The text into which the diagnostics of a failure point. -/
def source? : Failure → Option String
  | .rejected _ source => some source
  | _ => none

end Failure

/-! ## Section 2: Reports -/

/-- A marked piece of a text, by byte offset and length. -/
structure Mark where
  offset : Nat
  length : Nat
  note : String
  /-- The mark shows the error itself, not what surrounds it. -/
  isPrimary : Bool
  deriving DecidableEq, Repr

/-- One thing to be shown about a failure. -/
structure FailureReport where
  title : String
  code : Option String := none
  help : Option String := none
  marks : List Mark := []
  /-- The text into which the marks point. -/
  source : Option String := none
  /-- What lies behind the failure. -/
  cause : Option String := none
  deriving DecidableEq, Repr

def Label.mark (l : Label) : Mark :=
  ⟨l.span.start, l.span.length, l.note, l.role == .offending⟩

def Diagnostic.report (source : String) (d : Diagnostic) : FailureReport where
  title := d.message
  code := d.code.map ErrorCode.tag
  help := d.help
  marks := d.labels.map Label.mark
  source := some source

/-- The reports on a failure, given the text on which diagnostics are to be shown, if any. -/
def Failure.reports (f : Failure) (source : Option String) : List FailureReport :=
  match f, source with
  | .rejected diagnostics _, some source => diagnostics.map (Diagnostic.report source)
  | _, _ => [{ title := f.message, code := some f.code, cause := f.cause? }]

end ScriptCheck
