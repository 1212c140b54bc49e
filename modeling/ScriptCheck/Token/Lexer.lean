import ScriptCheck.Token.Lexeme
import ScriptCheck.Token.Statistics

/-! # Lexer

  A source text is read line by line. Within a line one lexeme follows another;
  from one line to the next only one thing is carried, the block comment that
  may still be open. Every text has a reading: what belongs to no class becomes
  an invalid token.

  Positions are kept in three units, each counted where it changes: lines from 1
  as the lines are numbered, byte offsets from 0 over the whole text, and
  character columns from 1 within a line.
-/

namespace ScriptCheck

/-! ## Section 1: Source lines -/

def byteCount : List Char → Nat
  | [] => 0
  | c :: cs => c.utf8Size + byteCount cs

theorem byteCount_append (cs ds : List Char) :
    byteCount (cs ++ ds) = byteCount cs + byteCount ds := by
  induction cs with
  | nil => simp [byteCount]
  | cons c cs ih => simp [byteCount, ih, Nat.add_assoc]

structure SourceLine where
  /-- The characters of the line, without the line feed that ends it. -/
  text : List Char
  /-- Number of the line, from 1. -/
  number : Nat
  /-- Byte offset of its first character. -/
  offset : Nat
  /-- A line feed ends the line; only the last line can lack it. -/
  terminated : Bool

/-- The lines of a text, each with whether a line feed ends it. A text that ends with a line feed
    has no further empty line after it. -/
def splitLines : List Char → List (List Char × Bool)
  | [] => []
  | c :: cs =>
    if c = '\n' then ([], true) :: splitLines cs
    else match splitLines cs with
      | [] => [([c], false)]
      | (text, terminated) :: rest => (c :: text, terminated) :: rest

/-- Number the lines and place them in the text. -/
def placeLines (number offset : Nat) : List (List Char × Bool) → List SourceLine
  | [] => []
  | (text, terminated) :: rest =>
    ⟨text, number, offset, terminated⟩ ::
      placeLines (number + 1) (offset + byteCount text + terminated.toNat) rest

def sourceLines (source : List Char) : List SourceLine := placeLines 1 0 (splitLines source)

namespace SourceLine

/-- Byte offset just past the line and the line feed that ends it. -/
def stop (l : SourceLine) : Nat := l.offset + byteCount l.text + l.terminated.toNat

/-- A piece of the line together with the line feed that ends the line. -/
def withEnd (l : SourceLine) (text : List Char) : List Char :=
  if l.terminated then text ++ ['\n'] else text

end SourceLine

/-! ## Section 2: What is carried from line to line -/

/-- A block comment whose closing quotes have not been met. -/
structure OpenBlock where
  /-- The character of which three close the comment. -/
  quote : Char
  /-- The text so far, opening quotes and line feeds included. -/
  text : String
  /-- Line of the opening quotes. -/
  line : Nat
  /-- Column of the opening quotes. -/
  column : Nat
  /-- The bytes so far. -/
  span : Span

/-- What the lexer knows at the start of a line. -/
inductive ScanMode where
  /-- No comment is open. -/
  | normal
  /-- The line starts inside a block comment. -/
  | inBlock (block : OpenBlock)

/-- The token that an open block has become. -/
def OpenBlock.token (block : OpenBlock) (kind : TokenKind) : Token :=
  ⟨kind, block.text, block.line, block.column, block.span⟩

/-! ## Section 3: Scanning -/

/-- A lexer: the reserved words and two choices. -/
structure Lexer where
  vocabulary : Vocabulary := .standard
  /-- Line ends become tokens. -/
  emitNewlines : Bool := false
  /-- What becomes of unclosed texts. -/
  unclosed : UnclosedPolicy := .invalid
  deriving Inhabited

structure LexicalAnalysis where
  tokens : List Token
  statistics : Statistics
  deriving DecidableEq, Repr

namespace Lexer

/-- Scan the part `cs` of a line that starts at a column and a byte offset. -/
def scanSegment (lexer : Lexer) (line : SourceLine) (column offset : Nat) :
    List Char → List Token × ScanMode
  | [] => ([], .normal)
  | c :: cs =>
    let lexeme := Lexeme.next lexer.vocabulary lexer.unclosed c cs
    let stop := offset + byteCount lexeme.text
    match lexeme.cls with
    | .blank => scanSegment lexer line (column + lexeme.text.length) stop lexeme.rest
    | .token kind =>
      let (tokens, mode) :=
        scanSegment lexer line (column + lexeme.text.length) stop lexeme.rest
      (⟨kind, String.ofList lexeme.text, line.number, column, .between offset stop⟩ :: tokens,
        mode)
    | .openBlock quote =>
      ([], .inBlock ⟨quote, String.ofList (line.withEnd lexeme.text), line.number, column,
        .between offset line.stop⟩)
termination_by cs => cs.length
decreasing_by all_goals exact Nat.lt_succ_of_le (Lexeme.next_rest_length_le ..)

/-- Look for the closing quotes of a block comment on a line, and scan what follows them. -/
def continueBlock (lexer : Lexer) (line : SourceLine) (block : OpenBlock) :
    List Token × ScanMode :=
  match throughTriple block.quote line.text with
  | none =>
    ([], .inBlock { block with
      text := block.text ++ String.ofList (line.withEnd line.text)
      span := block.span.union (.between line.offset line.stop) })
  | some (text, rest) =>
    let stop := line.offset + byteCount text
    let closed := { block with
      text := block.text ++ String.ofList text
      span := block.span.union (.between line.offset stop) }
    let (tokens, mode) := lexer.scanSegment line (text.length + 1) stop rest
    (closed.token .comment :: tokens, mode)

def newlineToken (line : SourceLine) : Token :=
  let offset := line.offset + byteCount line.text
  ⟨.newline, "\n", line.number, line.text.length + 1, .between offset (offset + 1)⟩

/-- Scan one line. The end of a line inside a block comment belongs to the comment. -/
def scanLine (lexer : Lexer) (mode : ScanMode) (line : SourceLine) : List Token × ScanMode :=
  let (tokens, mode) := match mode with
    | .normal => lexer.scanSegment line 1 line.offset line.text
    | .inBlock block => lexer.continueBlock line block
  match mode with
  | .normal =>
    if line.terminated && lexer.emitNewlines then (tokens ++ [newlineToken line], mode)
    else (tokens, mode)
  | .inBlock _ => (tokens, mode)

/-- The tokens that the end of the source adds: a block comment that is still open. -/
def atEnd (lexer : Lexer) : ScanMode → List Token
  | .normal => []
  | .inBlock block => [block.token (lexer.unclosed.kind .comment)]

def scanLines (lexer : Lexer) (mode : ScanMode) (counts : Statistics) :
    List SourceLine → LexicalAnalysis
  | [] =>
    let tokens := lexer.atEnd mode
    ⟨tokens, tokens.foldl Statistics.record counts⟩
  | line :: lines =>
    let (tokens, mode) := lexer.scanLine mode line
    let later := lexer.scanLines mode (tokens.foldl Statistics.record counts) lines
    { later with tokens := tokens ++ later.tokens }

/-- The tokens of a source text and their counts. -/
def analyze (lexer : Lexer) (source : String) : LexicalAnalysis :=
  lexer.scanLines .normal .empty (sourceLines source.toList)

def tokenize (lexer : Lexer) (source : String) : List Token := (lexer.analyze source).tokens

end Lexer

end ScriptCheck
