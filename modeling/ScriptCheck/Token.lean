import ScriptCheck.Span
import ScriptCheck.Text.Escaped

/-! # Tokens

  A token is a classified piece of source text: its kind, its exact spelling,
  the line and character column at which it starts, and the bytes it covers.
  Line ends and comments are *trivia*: tokens that are shown but that the
  grammar does not see.
-/

namespace ScriptCheck

/-! ## Section 1: Kinds -/

inductive TokenKind where
  /-- A word that is not reserved. -/
  | identifier
  /-- A reserved word. -/
  | keyword
  /-- A run of digits and dots that starts with a digit. -/
  | number
  /-- A quoted text, quotes included. -/
  | string
  /-- An operator such as `+`, `//=` or `->`. -/
  | operator
  /-- A single punctuation character such as `(` or `,`. -/
  | delimiter
  /-- A comment, to the end of the line or between triple quotes. -/
  | comment
  /-- The end of a line. -/
  | newline
  /-- A character of no class, or a text whose closing quote is missing. -/
  | invalid
  deriving DecidableEq, Repr, Inhabited

namespace TokenKind

def all : List TokenKind :=
  [.identifier, .keyword, .number, .string, .operator, .delimiter, .comment, .newline, .invalid]

def tag : TokenKind → String
  | .identifier => "IDENTIFIER"
  | .keyword => "KEYWORD"
  | .number => "NUMBER"
  | .string => "STRING"
  | .operator => "OPERATOR"
  | .delimiter => "DELIMITER"
  | .comment => "COMMENT"
  | .newline => "NEWLINE"
  | .invalid => "INVALID"

/-- The kinds that the grammar does not see. -/
def isTrivia : TokenKind → Bool
  | .comment | .newline => true
  | _ => false

theorem mem_all (kind : TokenKind) : kind ∈ all := by
  cases kind <;> simp [all]

end TokenKind

/-! ## Section 2: Tokens -/

structure Token where
  /-- Lexical category. -/
  kind : TokenKind
  /-- The exact source text. -/
  lexeme : String
  /-- Line of the first character, from 1. -/
  line : Nat
  /-- Column of the first character, in characters from 1. -/
  column : Nat
  /-- The bytes of the lexeme. -/
  span : Span
  deriving DecidableEq, Repr, Inhabited

namespace Token

def isTrivia (t : Token) : Bool := t.kind.isTrivia

def isKeyword (t : Token) (word : String) : Bool := t.kind == .keyword && t.lexeme == word

/-- The operator or delimiter `text`; the two kinds are not told apart here. -/
def isPunctuation (t : Token) (text : String) : Bool :=
  (t.kind == .operator || t.kind == .delimiter) && t.lexeme == text

def charCount (t : Token) : Nat := t.lexeme.length

/-- The lexeme as it is shown; a line end is always shown as `\n`. -/
def shownLexeme (t : Token) : String :=
  match t.kind with
  | .newline => "\\n"
  | _ => Text.escape t.lexeme

def render (t : Token) : String :=
  s!"{t.kind.tag}('{t.shownLexeme}') at {t.line}:{t.column}"

end Token

/-- The tokens that the grammar sees, in order. -/
def significantTokens (tokens : List Token) : List Token := tokens.filter fun t => !t.isTrivia

end ScriptCheck
