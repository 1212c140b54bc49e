import ScriptCheck.Text.Alphabetic
import ScriptCheck.Text.Numeric
import ScriptCheck.Token

/-! # Vocabulary

  The vocabulary decides what words and punctuation are: which words are
  reserved, which texts are operators, which characters are delimiters. The
  token listing and the parser use the same vocabulary, so a lexeme is
  classified in the same way wherever it is shown.

  Operators and delimiters are fixed. Reserved words can be added, and only
  words of the right shape are taken, since no other word is ever read. So every
  vocabulary that can be reached from the standard one is its list of reserved
  words, in the order in which they were added, each once.
-/

namespace ScriptCheck

/-! ## Section 1: The shape of words -/

def beginsWord (c : Char) : Bool := Text.isAlphabetic c || c == '_'

def continuesWord (c : Char) : Bool := Text.isAlphabetic c || Text.isNumeric c || c == '_'

def isWordShaped (word : String) : Bool :=
  match word.toList with
  | [] => false
  | first :: rest => beginsWord first && rest.all continuesWord

/-! ## Section 2: Fixed punctuation -/

def operators : List String :=
  ["+", "-", "*", "/", "//", "%", "**", "=", "+=", "-=", "*=", "/=", "//=", "%=", "**=", "==",
   "!=", ">", "<", ">=", "<=", "->"]

def delimiters : List Char := ['(', ')', '[', ']', '\x7b', '\x7d', ':', ',', '.', ';', '@']

/-- A character that is a token by itself. -/
def isDelimiter (c : Char) : Bool := delimiters.contains c

/-- The two characters that open a quoted text. -/
def isQuote (c : Char) : Bool := c == '\x27' || c == '\x22'

/-- The operator of exactly this many characters with which a text starts. -/
def operatorOfLength? (text : List Char) (n : Nat) : Option String :=
  operators.find? fun op => op.length == n && op.toList.isPrefixOf text

/-- The longest operator with which a text starts. No operator has more than three characters. -/
def longestOperator? (text : List Char) : Option String :=
  [3, 2, 1].findSome? (operatorOfLength? text)

/-! ## Section 3: Reserved words -/

/-- The reserved words of a lexer and a parser. -/
structure Vocabulary where
  /-- Reserved words in the order in which they were added, each once. -/
  keywords : List String
  deriving DecidableEq, Repr

/-- A word that cannot be reserved, since it does not have the shape of a word. -/
structure UnreadableWord where
  word : String
  deriving DecidableEq, Repr

def UnreadableWord.message (e : UnreadableWord) : String :=
  s!"keyword `{e.word}` is not identifier-shaped"

namespace Vocabulary

/-- The vocabulary of the language itself. -/
def standard : Vocabulary where
  keywords :=
    ["and", "as", "assert", "break", "class", "continue", "def", "del", "elif", "else", "except",
     "False", "finally", "for", "from", "global", "if", "import", "in", "is", "lambda", "None",
     "nonlocal", "not", "or", "pass", "raise", "return", "True", "try", "while", "with", "yield",
     "print"]

instance : Inhabited Vocabulary := ⟨standard⟩

def isKeyword (v : Vocabulary) (word : String) : Bool := v.keywords.contains word

def classify (v : Vocabulary) (word : String) : TokenKind :=
  if v.isKeyword word then .keyword else .identifier

/-- Reserve one word; a word that is reserved already keeps its place. -/
def insert (v : Vocabulary) (word : String) : Vocabulary :=
  if v.isKeyword word then v else ⟨v.keywords ++ [word]⟩

/-- Reserve the words in order. The first word without the shape of a word is refused, and with
    it the whole list. -/
def reserve (v : Vocabulary) : List String → Except UnreadableWord Vocabulary
  | [] => .ok v
  | word :: rest =>
    if isWordShaped word then (v.insert word).reserve rest else .error ⟨word⟩

end Vocabulary

end ScriptCheck
