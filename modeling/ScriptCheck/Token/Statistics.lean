import ScriptCheck.Token

/-! # Token Statistics

  Six counts over a list of tokens. Each category says how much a single token
  adds to it, so a total is the sum of the contributions, in whatever order the
  tokens come and however the list is cut.

  Main statement of this module: after a token is recorded each count has grown
  by exactly the token's contribution.
-/

namespace ScriptCheck

/-! ## Section 1: Categories -/

inductive Category where
  /-- Characters inside numbers. -/
  | numericChars
  /-- Characters inside operators and delimiters. -/
  | specialChars
  /-- Reserved words. -/
  | keywords
  /-- Invalid tokens. -/
  | invalidTokens
  /-- Comments. -/
  | comments
  /-- Operators. -/
  | operators
  deriving DecidableEq, Repr

namespace Category

def all : List Category :=
  [.numericChars, .specialChars, .keywords, .invalidTokens, .comments, .operators]

def name : Category → String
  | .numericChars => "numeric_chars"
  | .specialChars => "special_chars"
  | .keywords => "keywords"
  | .invalidTokens => "invalid_tokens"
  | .comments => "comments"
  | .operators => "operators"

/-- How much one token adds to the category. -/
def contribution (category : Category) (t : Token) : Nat :=
  match category, t.kind with
  | .numericChars, .number => t.charCount
  | .specialChars, .operator => t.charCount
  | .specialChars, .delimiter => t.charCount
  | .keywords, .keyword => 1
  | .invalidTokens, .invalid => 1
  | .comments, .comment => 1
  | .operators, .operator => 1
  | _, _ => 0

end Category

/-! ## Section 2: Counts -/

structure Statistics where
  numericChars : Nat := 0
  specialChars : Nat := 0
  keywords : Nat := 0
  invalidTokens : Nat := 0
  comments : Nat := 0
  operators : Nat := 0
  deriving DecidableEq, Repr, Inhabited

namespace Statistics

def empty : Statistics := {}

def get (s : Statistics) : Category → Nat
  | .numericChars => s.numericChars
  | .specialChars => s.specialChars
  | .keywords => s.keywords
  | .invalidTokens => s.invalidTokens
  | .comments => s.comments
  | .operators => s.operators

/-- The counts that a function gives, category by category. -/
def ofFunction (count : Category → Nat) : Statistics where
  numericChars := count .numericChars
  specialChars := count .specialChars
  keywords := count .keywords
  invalidTokens := count .invalidTokens
  comments := count .comments
  operators := count .operators

def record (s : Statistics) (t : Token) : Statistics :=
  ofFunction fun category => s.get category + category.contribution t

def ofTokens (tokens : List Token) : Statistics := tokens.foldl record empty

/-- The counts with their categories, in the order in which they are shown. -/
def toList (s : Statistics) : List (Category × Nat) := Category.all.map fun c => (c, s.get c)

def render (s : Statistics) : String :=
  String.join (s.toList.map fun (category, count) => s!"{category.name}: {count}\n")

/-! ## Section 3: Small lemmas -/

@[simp] theorem get_ofFunction (count : Category → Nat) (category : Category) :
    (ofFunction count).get category = count category := by
  cases category <;> rfl

@[simp] theorem get_empty (category : Category) : empty.get category = 0 := by
  cases category <;> rfl

@[simp] theorem get_record (s : Statistics) (t : Token) (category : Category) :
    (s.record t).get category = s.get category + category.contribution t := by
  simp [record]

/-- Statistics are their counts. -/
@[ext] theorem ext_get {s t : Statistics} (h : ∀ category, s.get category = t.get category) :
    s = t := by
  have h₁ := h .numericChars
  have h₂ := h .specialChars
  have h₃ := h .keywords
  have h₄ := h .invalidTokens
  have h₅ := h .comments
  have h₆ := h .operators
  cases s
  cases t
  simp_all [get]

end Statistics

end ScriptCheck
