import ScriptCheck.Diagnostic
import ScriptCheck.Program.Parser
import ScriptCheck.Token.Vocabulary

/-! # Diagnosis

  Problems are causes; here they become diagnostics. The code follows from the
  cause and from the token at fault, and message, labels and hint follow from
  the code. A diagnostic about the end of the input points just past the last
  token and names the line of the last significant one.
-/

namespace ScriptCheck

/-! ## Section 1: Hints -/

def Expectation.describe : Expectation → String
  | .statement => "a statement"
  | .expression => "an expression"
  | .identifier => "an identifier"
  | .assignmentOrCall => "`=` or `(`"
  | .exactly text => s!"`{text}`"

def Obstacle.help : Obstacle → String
  | .expected what => s!"expected {what.describe}"
  | .tooDeep => "split the construct into smaller pieces"

/-! ## Section 2: Places -/

structure Place where
  line : Nat
  span : Span
  deriving DecidableEq, Repr

def Token.place (t : Token) : Place := ⟨t.line, t.span⟩

/-- The end of the input: the line of the last significant token, or 1, and the empty span after
    the last token, trivia included. -/
def endOfInput (tokens : List Token) : Place where
  line := (((significantTokens tokens).getLast?).map (·.line)).getD 1
  span := .emptyAt (((tokens.getLast?).map (·.span.stop)).getD 0)

/-! ## Section 3: Codes and messages -/

def Token.faultCode (t : Token) : ErrorCode :=
  match t.kind with
  | .invalid =>
    if t.lexeme.toList.head?.any isQuote then .unterminatedString else .unexpectedCharacter
  | _ => .unexpectedToken

/-- The code of a blocked statement. Nesting is reported as such whatever comes next. -/
def Obstacle.code (obstacle : Obstacle) (fault : Option Token) : ErrorCode :=
  match obstacle, fault with
  | .tooDeep, _ => .nestingTooDeep
  | _, none => .unexpectedEnd
  | _, some t => t.faultCode

def faultMessage (limit : Nat) (code : ErrorCode) (lexeme : String) (line : Nat) : String :=
  match code with
  | .unexpectedCharacter => s!"unexpected character '{lexeme}' at line {line}"
  | .unterminatedString => s!"unterminated string {lexeme} at line {line}"
  | .unexpectedToken => s!"unexpected token '{lexeme}' at line {line}"
  | .unexpectedEnd => s!"unexpected end of input at line {line}"
  | .nestingTooDeep => s!"nesting deeper than {limit} levels at line {line}"
  | .malformedNumber => s!"malformed numeric literal '{lexeme}' at line {line}"

/-! ## Section 4: Diagnostics -/

/-- A diagnostic with its message, code and line, and a label on the place at fault. -/
def Diagnostic.atPlace (limit : Nat) (code : ErrorCode) (lexeme : String) (place : Place) :
    Diagnostic :=
  ((Diagnostic.ofMessage (faultMessage limit code lexeme place.line)).withCode code
    |>.withLine place.line).withLabel .offending place.span code.description

/-- The diagnostic for a problem found in `tokens` under a limit on nesting. Where the input ends
    inside a statement, a second label shows the start of that statement. -/
def Problem.diagnose (limit : Nat) (tokens : List Token) : Problem → Diagnostic
  | .malformedNumber number _ =>
    (Diagnostic.atPlace limit .malformedNumber number.lexeme number.place).withHelp
      "a number has at most one decimal point"
  | .blocked obstacle start ahead =>
    let fault := ahead.head?
    let place := (fault.map Token.place).getD (endOfInput tokens)
    let lexeme := (fault.map (·.lexeme)).getD ""
    let d := Diagnostic.atPlace limit (obstacle.code fault) lexeme place
    let d := match fault, start with
      | none, some t => d.withLabel .context t.span "statement starts here"
      | _, _ => d
    d.withHelp obstacle.help

/-! ## Section 5: The syntax check -/

/-- The outcome of a syntax check: the display tree, if a statement could be read, and one
    diagnostic for each problem. -/
structure SyntaxCheck where
  tree : Option Node
  diagnostics : List Diagnostic

def SyntaxCheck.succeeded (check : SyntaxCheck) : Bool := check.diagnostics.isEmpty

/-- The tree of a program without errors, or its diagnostics. -/
def SyntaxCheck.result (check : SyntaxCheck) : Except (List Diagnostic) Node :=
  match check.succeeded, check.tree with
  | true, some tree => .ok tree
  | _, _ => .error check.diagnostics

/-- Check the syntax of a list of tokens under a limit on nesting. -/
def checkSyntax (limit : Nat) (tokens : List Token) : SyntaxCheck :=
  let reading := readProgram limit tokens
  ⟨displayTree? reading.statements, reading.problems.map (Problem.diagnose limit tokens)⟩

/-- How deeply blocks and expressions may be nested unless something else is set. -/
def defaultNestingLimit : Nat := 64

end ScriptCheck
