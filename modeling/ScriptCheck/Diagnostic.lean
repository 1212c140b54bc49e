import ScriptCheck.Span

/-! # Diagnostics

  A diagnostic reports one error: a message that is complete in itself, and
  around it what a richer display can use, namely a code, the line, labelled
  pieces of the source and a hint.
-/

namespace ScriptCheck

/-! ## Section 1: Codes -/

inductive ErrorCode where
  /-- A character that belongs to no class of tokens. -/
  | unexpectedCharacter
  /-- A quoted text or block comment without its closing quotes. -/
  | unterminatedString
  /-- A token that the grammar does not allow where it stands. -/
  | unexpectedToken
  /-- The input ends inside a construct. -/
  | unexpectedEnd
  /-- Blocks or expressions are nested beyond the limit. -/
  | nestingTooDeep
  /-- A number with more than one decimal point. -/
  | malformedNumber
  deriving DecidableEq, Repr

namespace ErrorCode

def all : List ErrorCode :=
  [.unexpectedCharacter, .unterminatedString, .unexpectedToken, .unexpectedEnd, .nestingTooDeep,
   .malformedNumber]

/-- The tag under which a code is shown: `E0` for errors in tokens, `E1` for errors in syntax. -/
def tag : ErrorCode → String
  | .unexpectedCharacter => "E001"
  | .unterminatedString => "E002"
  | .unexpectedToken => "E100"
  | .unexpectedEnd => "E101"
  | .nestingTooDeep => "E102"
  | .malformedNumber => "E103"

def description : ErrorCode → String
  | .unexpectedCharacter => "unexpected character"
  | .unterminatedString => "unterminated string literal"
  | .unexpectedToken => "unexpected token"
  | .unexpectedEnd => "unexpected end of input"
  | .nestingTooDeep => "nesting too deep"
  | .malformedNumber => "malformed numeric literal"

end ErrorCode

/-! ## Section 2: Labels -/

/-- What a labelled piece of source shows. -/
inductive LabelRole where
  /-- The token at fault, or the empty place at the end of the input. -/
  | offending
  /-- Something that helps to understand the error. -/
  | context
  deriving DecidableEq, Repr

def LabelRole.name : LabelRole → String
  | .offending => "offending"
  | .context => "context"

structure Label where
  role : LabelRole
  span : Span
  note : String
  deriving DecidableEq, Repr

/-! ## Section 3: Diagnostics -/

structure Diagnostic where
  message : String
  code : Option ErrorCode := none
  /-- The line on which the error was found, from 1. -/
  line : Option Nat := none
  labels : List Label := []
  /-- A hint at what would have been right. -/
  help : Option String := none
  deriving DecidableEq, Repr

namespace Diagnostic

def ofMessage (message : String) : Diagnostic := { message }

def withCode (d : Diagnostic) (code : ErrorCode) : Diagnostic := { d with code := some code }

def withLine (d : Diagnostic) (line : Nat) : Diagnostic := { d with line := some line }

def withLabel (d : Diagnostic) (role : LabelRole) (span : Span) (note : String) : Diagnostic :=
  { d with labels := d.labels ++ [⟨role, span, note⟩] }

def withHelp (d : Diagnostic) (help : String) : Diagnostic := { d with help := some help }

/-- The piece of source at fault: the first label that marks one. -/
def primarySpan? (d : Diagnostic) : Option Span :=
  (d.labels.find? fun l => l.role == .offending).map (·.span)

def render (d : Diagnostic) : String :=
  match d.code with
  | some code => s!"error[{code.tag}]: {d.message}"
  | none => s!"error: {d.message}"

end Diagnostic

/-- Several diagnostics in one line: the first, and how many there are besides it. -/
def summarize : List Diagnostic → String
  | [] => ""
  | [d] => d.render
  | d :: rest => s!"{d.render} (+{rest.length} more)"

end ScriptCheck
