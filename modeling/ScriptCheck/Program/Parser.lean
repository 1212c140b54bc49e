import ScriptCheck.Program.ExpressionParser

/-! # Reading Programs

  Statements start with a name or with one of six reserved words. A body is one
  or more statements and ends where no statement starts; there is no other mark
  of its end, so a body takes every statement that follows it.

  An obstacle ends the statement in which it is met, not the program. The
  innermost list of statements reports it, passes over the tokens up to the next
  line or the next reserved word that starts a statement, and reads on. So a
  program is always read to its end, and what comes out is every statement that
  could be read and every problem that was found.
-/

namespace ScriptCheck

/-! ## Section 1: How statements start -/

inductive StatementHead where
  | name
  | ifWord
  | whileWord
  | forWord
  | defWord
  | printWord
  | returnWord
  deriving DecidableEq, Repr

/-- The start of a statement that a reserved word is, if it is one. -/
def StatementHead.ofKeyword? (word : String) : Option StatementHead :=
  if word = "if" then some .ifWord
  else if word = "while" then some .whileWord
  else if word = "for" then some .forWord
  else if word = "def" then some .defWord
  else if word = "print" then some .printWord
  else if word = "return" then some .returnWord
  else none

namespace Token

def statementHead? (t : Token) : Option StatementHead :=
  match t.kind with
  | .identifier => some .name
  | .keyword => StatementHead.ofKeyword? t.lexeme
  | _ => none

def startsStatement (t : Token) : Bool := t.statementHead?.isSome

/-- A reserved word with which a statement starts. -/
def isStatementKeyword (t : Token) : Bool :=
  t.kind == .keyword && (StatementHead.ofKeyword? t.lexeme).isSome

end Token

/-! ## Section 2: Reading on after an obstacle -/

/-- Where reading goes on: at the first token on a later line than the one at fault or that is a
    statement's reserved word. Trivia counts, since it too can begin a line. At the end of the
    input nothing is left to read. -/
def resume (ahead tokens : List Token) : List Token :=
  match ahead with
  | [] => []
  | fault :: _ => tokens.dropWhile fun t => !(fault.line < t.line || t.isStatementKeyword)

theorem resume_suffix (ahead tokens : List Token) : resume ahead tokens <:+ tokens := by
  unfold resume
  split
  · exact List.nil_suffix
  · exact List.dropWhile_suffix _

theorem resume_tail_suffix (ahead tokens : List Token) :
    resume ahead tokens.tail <:+ tokens :=
  (resume_suffix _ _).trans (List.tail_suffix _)

theorem resume_tail_length_lt (ahead : List Token) {tokens : List Token}
    (h : 0 < tokens.length) : (resume ahead tokens.tail).length < tokens.length := by
  have hle := (resume_suffix ahead tokens.tail).length_le
  rw [List.length_tail] at hle
  omega

/-- Whether a token that starts no statement ends a list of statements or is an error in it. -/
inductive Scope where
  /-- The program, which has to take every token. -/
  | program
  /-- A body, which ends there. -/
  | body
  deriving DecidableEq, Repr

/-- The statements that were read, with what is left and what was reported. -/
structure Passage (input : List Token) where
  statements : List Statement
  rest : List Token
  problems : List Problem
  suffix : rest <:+ input

namespace Passage

variable {input : List Token}

def done (input : List Token) : Passage input := ⟨[], input, [], List.suffix_rfl⟩

/-- A passage that starts at a later place, after statements and problems that precede it. -/
def precededBy {later : List Token} (h : later <:+ input) (statements : List Statement)
    (problems : List Problem) (p : Passage later) : Passage input :=
  ⟨statements ++ p.statements, p.rest, problems ++ p.problems, p.suffix.trans h⟩

/-- A passage as a reading: it meets no obstacle that it has not dealt with. -/
def toReading (p : Passage input) : Reading (List Statement) input :=
  ⟨.ok p.statements, p.rest, p.problems, p.suffix⟩

end Passage

/-- Go on with a list of statements after one of them was read or met an obstacle, which is then
    reported. `start` is the first token of that statement. -/
def Reading.continueWith {input : List Token} (r : Reading Statement input) (start : Token)
    (more : (left : List Token) → left.length ≤ input.length → Passage left) : Passage input :=
  match r.outcome with
  | .ok statement =>
    (more r.rest r.suffix.length_le).precededBy r.suffix [statement] r.problems
  | .error obstacle =>
    let ahead := upcoming r.rest
    have h := (resume_suffix ahead r.rest).trans r.suffix
    (more (resume ahead r.rest) h.length_le).precededBy h []
      (r.problems ++ [.blocked obstacle (some start) ahead])

/-! ## Section 3: Parameters -/

/-- Further parameters, each after a comma. A comma that no name follows is left unread. -/
def moreParameters (input : List Token) : List String × List Token :=
  match h : upcoming input with
  | [] => ([], input)
  | comma :: rest =>
    have := length_lt_of_upcoming h
    if comma.isPunctuation "," then
      match h' : upcoming rest with
      | [] => ([], input)
      | name :: rest' =>
        have := length_lt_of_upcoming h'
        if name.kind = .identifier then
          let (names, left) := moreParameters rest'
          (name.lexeme :: names, left)
        else ([], input)
    else ([], input)
termination_by input.length

theorem moreParameters_suffix (input : List Token) : (moreParameters input).2 <:+ input := by
  fun_induction moreParameters input with
  | case1 => exact List.suffix_rfl
  | case2 => exact List.suffix_rfl
  | case3 input _ rest h _ _ name rest' h' _ _ names left eq ih =>
    rw [eq] at ih
    exact ih.trans ((suffix_of_upcoming h').trans (suffix_of_upcoming h))
  | case4 => exact List.suffix_rfl
  | case5 => exact List.suffix_rfl

def readParameters (input : List Token) : Reading (List String) input :=
  match h : upcoming input with
  | [] => .done [] input
  | name :: rest =>
    if name.kind = .identifier then
      let more := moreParameters rest
      ⟨.ok (name.lexeme :: more.1), more.2, [],
        (moreParameters_suffix rest).trans (suffix_of_upcoming h)⟩
    else .done [] input

/-! ## Section 4: Simple statements -/

/-- An assignment or a call, after its name. -/
def readNamed (limit depth : Nat) (name : String) (input : List Token) :
    Reading Statement input :=
  if nextIs "=" input then
    (demandPunctuation "=" input).andThen fun _ rest _ =>
      (readExpression limit depth 0 rest).map (.assign name)
  else if nextIs "(" input then
    (demandPunctuation "(" input).andThen fun _ rest _ =>
      (readItems limit (depth + 1) ")" rest).map (.call name)
  else .fail (.expected .assignmentOrCall) input

/-- A print statement, after its reserved word. -/
def readPrint (limit depth : Nat) (input : List Token) : Reading Statement input :=
  (demandPunctuation "(" input).andThen fun _ rest _ =>
    (readExpression limit (depth + 1) 0 rest).andThen fun argument rest' _ =>
      (demandPunctuation ")" rest').map fun _ => .print argument

/-! ## Section 5: Statements and bodies -/

mutual

/-- Statements one after the other. Every turn of this list consumes a token or ends it. -/
def readStatements (limit depth : Nat) (scope : Scope) (input : List Token) : Passage input :=
  match h : upcoming input with
  | [] => .done input
  | t :: rest =>
    have := length_lt_of_upcoming h
    match t.statementHead? with
    | some head =>
      .precededBy (suffix_of_upcoming h) [] [] <|
        (readStatement limit depth head t.lexeme rest).continueWith t fun left _ =>
          readStatements limit depth scope left
    | none =>
      match scope with
      | .body => .done input
      | .program =>
        have := resume_tail_length_lt (t :: rest) (List.length_pos_iff.mpr (ne_nil_of_upcoming h))
        .precededBy (resume_tail_suffix (t :: rest) input) []
          [.blocked (.expected .statement) (some t) (t :: rest)]
          (readStatements limit depth scope (resume (t :: rest) input.tail))
termination_by 4 * input.length

/-- A body: at least one statement has to start. -/
def readBlock (limit depth : Nat) (input : List Token) : Reading (List Statement) input :=
  if limit < depth then .fail .tooDeep input
  else match upcoming input with
    | [] => .fail (.expected .statement) input
    | t :: _ =>
      if t.startsStatement then (readStatements limit depth .body input).toReading
      else .fail (.expected .statement) input
termination_by 4 * input.length + 1

/-- A colon and the body that it announces, one level deeper. -/
def readBody (limit depth : Nat) (input : List Token) : Reading (List Statement) input :=
  (demandPunctuation ":" input).andThen fun _ rest _ => readBlock limit (depth + 1) rest
termination_by 4 * input.length + 2

/-- One statement, after the token with which it starts. -/
def readStatement (limit depth : Nat) (head : StatementHead) (lexeme : String)
    (input : List Token) : Reading Statement input :=
  match head with
  | .name => readNamed limit depth lexeme input
  | .printWord => readPrint limit depth input
  | .returnWord => (readExpression limit depth 0 input).map .returnValue
  | .ifWord =>
    (readExpression limit depth 0 input).andThen fun condition rest₁ _ =>
      (readBody limit depth rest₁).andThen fun body rest₂ _ =>
        match h : upcoming rest₂ with
        | [] => .done (.ifThen condition body) rest₂
        | t :: rest₃ =>
          have := length_lt_of_upcoming h
          if t.isKeyword "else" then
            .seenFrom (suffix_of_upcoming h)
              ((readBody limit depth rest₃).map (.ifElse condition body))
          else .done (.ifThen condition body) rest₂
  | .whileWord =>
    (readExpression limit depth 0 input).andThen fun condition rest₁ _ =>
      (readBody limit depth rest₁).map (.whileLoop condition)
  | .forWord =>
    (demandIdentifier input).andThen fun name rest₁ _ =>
      (demandKeyword "in" rest₁).andThen fun _ rest₂ _ =>
        (readExpression limit depth 0 rest₂).andThen fun iterable rest₃ _ =>
          (readBody limit depth rest₃).map (.forLoop name.lexeme iterable)
  | .defWord =>
    (demandIdentifier input).andThen fun name rest₁ _ =>
      (demandPunctuation "(" rest₁).andThen fun _ rest₂ _ =>
        (readParameters rest₂).andThen fun parameters rest₃ _ =>
          (demandPunctuation ")" rest₃).andThen fun _ rest₄ _ =>
            (readBody limit depth rest₄).map (.define name.lexeme parameters)
termination_by 4 * input.length + 3

end

/-! ## Section 6: Programs -/

structure ProgramReading where
  statements : List Statement
  problems : List Problem

/-- Read tokens as a program whose nesting is limited. A program without a single statement is an
    error of its own, unless another one explains it. -/
def readProgram (limit : Nat) (tokens : List Token) : ProgramReading :=
  let p := readStatements limit 0 .program tokens
  if p.statements.isEmpty && p.problems.isEmpty then
    ⟨[], [.blocked (.expected .statement) none []]⟩
  else ⟨p.statements, p.problems⟩

end ScriptCheck
