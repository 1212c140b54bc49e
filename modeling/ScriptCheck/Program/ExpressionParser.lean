import ScriptCheck.Program
import ScriptCheck.Program.Reading

/-! # Reading Expressions

  An expression is an operand followed by operators and operands. Precedence is
  settled while reading: an expression is read with the least precedence that
  its operators may have, and the right operand of an operator takes only
  operators that bind tighter than it.

  Every operand has a depth, and an operand deeper than the limit is an
  obstacle. The right operand of an operator, the inside of parentheses, the
  elements of a list and the arguments of a call are each one deeper.
-/

namespace ScriptCheck

def Token.binaryOperator? (t : Token) : Option BinaryOperator :=
  if t.kind = .operator then BinaryOperator.ofSymbol? t.lexeme else none

/-- A number with more than one decimal point. -/
def Token.isMalformedNumber (t : Token) : Bool :=
  t.kind == .number && 1 < t.lexeme.toList.count '.'

/-- A value that is a single token. A malformed number is reported and read all the same. -/
def readValue (t : Token) (rest : List Token) : Reading Expression rest :=
  let problems := if t.isMalformedNumber then [.malformedNumber t rest] else []
  ⟨.ok (.value t.lexeme), rest, problems, List.suffix_rfl⟩

inductive OperandHead where
  /-- A number or a quoted text. -/
  | literal
  /-- A name, perhaps that of a function that is called. -/
  | name
  /-- An expression in parentheses. -/
  | group
  /-- A list, with the bracket that closes it. -/
  | list (close : String)
  deriving DecidableEq, Repr

/-- What an operand that starts with the token is; none does with most tokens. -/
def Token.operandHead? (t : Token) : Option OperandHead :=
  match t.kind with
  | .number | .string => some .literal
  | .identifier => some .name
  | .delimiter =>
    if t.lexeme = "(" then some .group
    else if t.lexeme = "[" then some (.list "]")
    else if t.lexeme = "\x7b" then some (.list "\x7d")
    else none
  | _ => none

mutual

/-- Operators and their right operands, after the operand `left`. -/
def readOperations (limit depth least : Nat) (left : Expression) (input : List Token) :
    Reading Expression input :=
  match h : upcoming input with
  | [] => .done left input
  | t :: rest =>
    have := length_lt_of_upcoming h
    match t.binaryOperator? with
    | none => .done left input
    | some op =>
      if op.precedence < least then .done left input
      else
        .seenFrom (suffix_of_upcoming h) <|
          (readExpression limit (depth + 1) (op.precedence + 1) rest).andThen
            fun right rest' _ => readOperations limit depth least (.binary op left right) rest'
termination_by 5 * input.length

def readOperand (limit depth : Nat) (input : List Token) : Reading Expression input :=
  if limit < depth then .fail .tooDeep input
  else match h : upcoming input with
    | [] => .fail (.expected .expression) input
    | t :: rest =>
      have := length_lt_of_upcoming h
      match t.operandHead? with
      | none => .fail (.expected .expression) input
      | some head =>
        .seenFrom (suffix_of_upcoming h) <|
          match head with
          | .literal => readValue t rest
          | .name =>
            if nextIs "(" rest then
              (demandPunctuation "(" rest).andThen fun _ rest' _ =>
                (readItems limit (depth + 1) ")" rest').map (.call t.lexeme)
            else readValue t rest
          | .group =>
            (readExpression limit (depth + 1) 0 rest).andThen fun inner rest' _ =>
              (demandPunctuation ")" rest').map fun _ => inner
          | .list close => (readItems limit (depth + 1) close rest).map .list
termination_by 5 * input.length + 1

/-- An expression whose operators have at least the precedence `least`. -/
def readExpression (limit depth least : Nat) (input : List Token) : Reading Expression input :=
  (readOperand limit depth input).andThen fun left rest _ =>
    readOperations limit depth least left rest
termination_by 5 * input.length + 2

/-- One or more expressions with commas between them. -/
def readSeparated (limit depth : Nat) (input : List Token) : Reading (List Expression) input :=
  (readExpression limit depth 0 input).andThen fun e rest _ =>
    match h : upcoming rest with
    | [] => .done [e] rest
    | t :: rest' =>
      have := length_lt_of_upcoming h
      if t.isPunctuation "," then
        .seenFrom (suffix_of_upcoming h) ((readSeparated limit depth rest').map (e :: ·))
      else .done [e] rest
termination_by 5 * input.length + 3

/-- Expressions with commas between them, perhaps none, and the bracket that closes them. -/
def readItems (limit depth : Nat) (close : String) (input : List Token) :
    Reading (List Expression) input :=
  if nextIs close input then (demandPunctuation close input).map fun _ => []
  else
    (readSeparated limit depth input).andThen fun items rest _ =>
      (demandPunctuation close rest).map fun _ => items
termination_by 5 * input.length + 4

end

end ScriptCheck
