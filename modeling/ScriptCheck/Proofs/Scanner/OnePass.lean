import Mathlib.Data.List.MinMax
import ScriptCheck.Token.Lexer

/-! # A One-Pass Scanner

  What a lexer does, said without lines: one scan over the undivided source, from
  left to right. At each place the characters from there on decide how long the
  next piece is and whether it becomes a token. The scan carries nothing from one
  piece to the next but its position.

  A position is counted character by character. Only a line feed starts a new
  line, wherever it stands.
-/

namespace ScriptCheck

/-! ## Section 1: Positions -/

structure Position where
  /-- Number of the line, from 1. -/
  line : Nat
  /-- Column in characters, from 1. -/
  column : Nat
  /-- Number of bytes in front of the place. -/
  offset : Nat
  deriving DecidableEq, Repr

namespace Position

def start : Position := ⟨1, 1, 0⟩

/-- The place behind one more character. -/
def step (p : Position) (c : Char) : Position :=
  if c = '\n' then ⟨p.line + 1, 1, p.offset + c.utf8Size⟩
  else ⟨p.line, p.column + 1, p.offset + c.utf8Size⟩

def after (p : Position) (cs : List Char) : Position := cs.foldl step p

@[simp] theorem after_nil (p : Position) : p.after [] = p := rfl

@[simp] theorem after_cons (p : Position) (c : Char) (cs : List Char) :
    p.after (c :: cs) = (p.step c).after cs := rfl

@[simp] theorem after_append (p : Position) (cs ds : List Char) :
    p.after (cs ++ ds) = (p.after cs).after ds :=
  List.foldl_append

@[simp] theorem step_offset (p : Position) (c : Char) :
    (p.step c).offset = p.offset + c.utf8Size := by
  unfold step
  split <;> rfl

theorem after_offset (p : Position) (cs : List Char) :
    (p.after cs).offset = p.offset + byteCount cs := by
  induction cs generalizing p with
  | nil => simp [byteCount]
  | cons c cs ih =>
    rw [after_cons, ih, step_offset]
    simp [byteCount, Nat.add_assoc]

/-- Within a line the column counts characters. -/
theorem after_of_not_mem (p : Position) {cs : List Char} (h : '\n' ∉ cs) :
    p.after cs = ⟨p.line, p.column + cs.length, p.offset + byteCount cs⟩ := by
  induction cs generalizing p with
  | nil => simp [byteCount]
  | cons c cs ih =>
    rw [List.mem_cons, not_or] at h
    have hstep : p.step c = ⟨p.line, p.column + 1, p.offset + c.utf8Size⟩ := if_neg (Ne.symm h.1)
    rw [after_cons, ih _ h.2, hstep]
    simp [byteCount, Nat.add_assoc, Nat.add_comm 1]

end Position

/-! ## Section 2: Where pieces end -/

def restOfLine (cs : List Char) : List Char := cs.takeWhile (· != '\n')

/-- How many characters stand in front of the first three quotes in a row. -/
def beforeTriple? (quote : Char) (cs : List Char) : Option Nat :=
  cs.tails.findIdx? ([quote, quote, quote].isPrefixOf ·)

/-- How many characters a quoted text has behind its opening quote, the closing one included. The
    character after a backslash closes nothing. -/
def throughClosing? (quote : Char) : List Char → Option Nat
  | [] => none
  | '\\' :: _ :: cs => (throughClosing? quote cs).map (· + 2)
  | c :: cs => if c = quote then some 1 else (throughClosing? quote cs).map (· + 1)

/-- The longest of the operators with which a text starts. -/
def longestPrefix? (text : List Char) : Option String :=
  (operators.filter (·.toList.isPrefixOf text)).argmax String.length

/-! ## Section 3: The scan -/

structure Piece where
  /-- The kind of token that the piece becomes, if it becomes one. -/
  kind : Option TokenKind
  /-- How many characters it has behind its first one. -/
  more : Nat

namespace Lexer

def nextPiece (lexer : Lexer) (c : Char) (cs : List Char) : Piece :=
  if c = '\n' then ⟨if lexer.emitNewlines then some .newline else none, 0⟩
  else if Text.isBlank c then ⟨none, 0⟩
  else if c = '#' then ⟨some .comment, (restOfLine cs).length⟩
  else if isQuote c then
    if [c, c].isPrefixOf cs then
      match beforeTriple? c (cs.drop 2) with
      | some n => ⟨some .comment, 2 + n + 3⟩
      | none => ⟨some (lexer.unclosed.kind .comment), cs.length⟩
    else
      match throughClosing? c (restOfLine cs) with
      | some n => ⟨some .string, n⟩
      | none => ⟨some (lexer.unclosed.kind .string), (restOfLine cs).length⟩
  else if beginsWord c then
    let others := cs.takeWhile continuesWord
    ⟨some (lexer.vocabulary.classify (String.ofList (c :: others))), others.length⟩
  else if c.isDigit then ⟨some .number, (cs.takeWhile continuesNumber).length⟩
  else
    match longestPrefix? (c :: cs) with
    | some op => ⟨some .operator, op.length - 1⟩
    | none => ⟨some (if isDelimiter c then .delimiter else .invalid), 0⟩

/-- A line end becomes a token or not; either way a single character is passed over. -/
theorem nextPiece_lineFeed (lexer : Lexer) (cs : List Char) :
    lexer.nextPiece '\n' cs = ⟨if lexer.emitNewlines then some .newline else none, 0⟩ := by
  simp [nextPiece]

def tokenAt (p : Position) (kind : TokenKind) (text : List Char) : Token :=
  ⟨kind, String.ofList text, p.line, p.column, .between p.offset (p.after text).offset⟩

/-- Scan a source from a position on, piece by piece. -/
def scan (lexer : Lexer) (p : Position) : List Char → List Token
  | [] => []
  | c :: cs =>
    let piece := lexer.nextPiece c cs
    let text := c :: cs.take piece.more
    let later := lexer.scan (p.after text) (cs.drop piece.more)
    match piece.kind with
    | some kind => tokenAt p kind text :: later
    | none => later
termination_by cs => cs.length

end Lexer

end ScriptCheck
