import ScriptCheck.Token

/-! # Readings

  The parser consumes a list of tokens from the left. What one of its functions
  gives back is a *reading*: the construct or the obstacle it met, the tokens
  that are left, and the problems that were reported on the way. A reading also
  carries the fact that what is left is an end piece of what was given, from
  which every recursion of the parser draws its termination.

  Trivia may stand in front of any token. Looking ahead passes over it without
  consuming it. A demanded token consumes it, also when the token is then a
  wrong one: the difference shows where reading goes on after an error.
-/

namespace ScriptCheck

/-! ## Section 1: Obstacles and problems -/

/-- What could have stood where the parser did not get on. -/
inductive Expectation where
  | statement
  | expression
  | identifier
  | assignmentOrCall
  /-- One word or punctuation mark. -/
  | exactly (text : String)
  deriving DecidableEq, Repr

/-- Why a construct could not be read. -/
inductive Obstacle where
  /-- Another token was needed. -/
  | expected (what : Expectation)
  /-- The limit on nesting was exceeded. -/
  | tooDeep
  deriving DecidableEq, Repr

/-- An error that was found while reading on. Each problem knows the tokens that were left when it
    was found, the one at fault first. -/
inductive Problem where
  /-- A number with more than one decimal point; it is read as a value all the same. -/
  | malformedNumber (number : Token) (after : List Token)
  /-- A statement could not be read to its end. `start` is its first token. Nothing is `ahead` when
      the input ended. -/
  | blocked (obstacle : Obstacle) (start : Option Token) (ahead : List Token)
  deriving DecidableEq, Repr

/-- The tokens from the one at fault on. -/
def Problem.ahead : Problem → List Token
  | .malformedNumber number after => number :: after
  | .blocked _ _ ahead => ahead

/-! ## Section 2: Looking ahead -/

/-- The tokens from the next significant one on. -/
def upcoming (tokens : List Token) : List Token := tokens.dropWhile Token.isTrivia

/-- The next significant token is the operator or delimiter `text`. -/
def nextIs (text : String) (tokens : List Token) : Bool :=
  match upcoming tokens with
  | [] => false
  | t :: _ => t.isPunctuation text

theorem upcoming_suffix (tokens : List Token) : upcoming tokens <:+ tokens :=
  List.dropWhile_suffix _

/-- What follows the next significant token is an end piece. -/
theorem suffix_of_upcoming {tokens rest : List Token} {t : Token}
    (h : upcoming tokens = t :: rest) : rest <:+ tokens :=
  ((List.suffix_cons t rest).trans (h ▸ upcoming_suffix tokens :))

/-- What follows the next significant token is shorter. -/
theorem length_lt_of_upcoming {tokens rest : List Token} {t : Token}
    (h : upcoming tokens = t :: rest) : rest.length < tokens.length :=
  (h ▸ upcoming_suffix tokens : (t :: rest) <:+ tokens).length_le

theorem ne_nil_of_upcoming {tokens rest : List Token} {t : Token}
    (h : upcoming tokens = t :: rest) : tokens ≠ [] := by
  rintro rfl
  simp [upcoming] at h

/-! ## Section 3: Readings -/

/-- The result of reading a construct from `input`. -/
structure Reading (α : Type) (input : List Token) where
  outcome : Except Obstacle α
  rest : List Token
  problems : List Problem
  suffix : rest <:+ input

namespace Reading

variable {α β : Type} {input : List Token}

/-- A construct that has been read, with nothing more consumed. -/
def done (a : α) (input : List Token) : Reading α input := ⟨.ok a, input, [], List.suffix_rfl⟩

/-- An obstacle, with nothing consumed. -/
def fail (obstacle : Obstacle) (input : List Token) : Reading α input :=
  ⟨.error obstacle, input, [], List.suffix_rfl⟩

/-- The same reading, seen from an earlier place in the input. -/
def seenFrom {later : List Token} (h : later <:+ input) (r : Reading α later) : Reading α input :=
  ⟨r.outcome, r.rest, r.problems, r.suffix.trans h⟩

def map (f : α → β) (r : Reading α input) : Reading β input :=
  ⟨r.outcome.map f, r.rest, r.problems, r.suffix⟩

/-- Read one construct after another. The second is told that no token has come back. -/
def andThen (r : Reading α input)
    (f : α → (rest : List Token) → rest.length ≤ input.length → Reading β rest) :
    Reading β input :=
  match r.outcome with
  | .error obstacle => ⟨.error obstacle, r.rest, r.problems, r.suffix⟩
  | .ok a =>
    let s := f a r.rest r.suffix.length_le
    ⟨s.outcome, s.rest, r.problems ++ s.problems, s.suffix.trans r.suffix⟩

end Reading

/-! ## Section 4: Demanded tokens -/

/-- The next significant token, if it is of the wanted sort. -/
def demand (wanted : Token → Bool) (what : Expectation) (input : List Token) :
    Reading Token input :=
  match h : upcoming input with
  | [] => ⟨.error (.expected what), [], [], List.nil_suffix⟩
  | t :: rest =>
    if wanted t then ⟨.ok t, rest, [], suffix_of_upcoming h⟩
    else ⟨.error (.expected what), t :: rest, [], h ▸ upcoming_suffix input⟩

def demandPunctuation (text : String) (input : List Token) : Reading Token input :=
  demand (·.isPunctuation text) (.exactly text) input

def demandKeyword (word : String) (input : List Token) : Reading Token input :=
  demand (·.isKeyword word) (.exactly word) input

def demandIdentifier (input : List Token) : Reading Token input :=
  demand (·.kind == .identifier) .identifier input

end ScriptCheck
