import ScriptCheck.Text.Blank
import ScriptCheck.Token.Vocabulary

/-! # Lexemes

  A line of source text is cut from the left into lexemes: blank runs, which
  separate tokens, and the pieces that become tokens. Which lexeme comes next is
  decided by the first characters alone, in a fixed order, and the lexeme is
  always as long as its class allows:

  1. a run of blank characters;
  2. `#` with the rest of the line, a comment;
  3. three equal quotes, a block comment through the next three of them, or one
     that the line leaves open;
  4. a quote, a quoted text through the same quote, or to the end of the line;
  5. a word; 6. a number; 7. the longest operator; 8. a delimiter;
  9. any other character by itself.

  Main statement: the cut loses nothing. The text of a lexeme and what follows
  it are together the line that was cut, and the text is not empty.
-/

namespace ScriptCheck

/-! ## Section 1: Closing quotes -/

/-- The text through the first three quotes in a row, and what follows it. -/
def throughTriple (quote : Char) : List Char → Option (List Char × List Char)
  | [] => none
  | c :: cs =>
    if [quote, quote, quote].isPrefixOf (c :: cs) then
      some ([quote, quote, quote], (c :: cs).drop 3)
    else
      (throughTriple quote cs).map fun (text, rest) => (c :: text, rest)

/-- A quoted text after its opening quote. -/
structure QuotedTail where
  /-- The text through the closing quote, or all of it. -/
  text : List Char
  /-- What follows the closing quote. -/
  rest : List Char
  /-- The closing quote was found. -/
  closed : Bool

def QuotedTail.push (c : Char) (tail : QuotedTail) : QuotedTail :=
  { tail with text := c :: tail.text }

/-- Read through the closing quote. The character after a backslash closes nothing. -/
def throughQuote (quote : Char) : List Char → QuotedTail
  | [] => ⟨[], [], false⟩
  | ['\\'] => ⟨['\\'], [], false⟩
  | '\\' :: c :: cs => ((throughQuote quote cs).push c).push '\\'
  | c :: cs => if c = quote then ⟨[c], cs, true⟩ else (throughQuote quote cs).push c

/-! ## Section 2: What is done with an unclosed text -/

/-- What becomes of a quoted text or block comment whose closing quotes are missing. -/
inductive UnclosedPolicy where
  /-- It is an invalid token. -/
  | invalid
  /-- It is the token that it would be if it were closed. -/
  | truncate
  deriving DecidableEq, Repr, Inhabited

/-- The kind of an unclosed text that would have the kind `closed` if it were closed. -/
def UnclosedPolicy.kind (policy : UnclosedPolicy) (closed : TokenKind) : TokenKind :=
  match policy with
  | .invalid => .invalid
  | .truncate => closed

/-! ## Section 3: The next lexeme of a line -/

inductive LexemeClass where
  /-- Blank characters between tokens. -/
  | blank
  /-- A token. -/
  | token (kind : TokenKind)
  /-- A block comment that three of `quote` opened and that the line leaves open. -/
  | openBlock (quote : Char)
  deriving DecidableEq, Repr

/-- A lexeme and the rest of its line. -/
structure Lexeme where
  cls : LexemeClass
  text : List Char
  rest : List Char

/-- The characters of which a number consists. -/
def continuesNumber (c : Char) : Bool := c.isDigit || c == '.'

namespace Lexeme

/-- The lexeme that consists of the first character and as many others as fit. -/
def run (cls : LexemeClass) (c : Char) (fits : Char → Bool) (cs : List Char) : Lexeme :=
  ⟨cls, c :: cs.takeWhile fits, cs.dropWhile fits⟩

/-- A block comment, from after its three opening quotes. -/
def block (quote : Char) (cs : List Char) : Lexeme :=
  match throughTriple quote cs with
  | some (text, rest) => ⟨.token .comment, quote :: quote :: quote :: text, rest⟩
  | none => ⟨.openBlock quote, quote :: quote :: quote :: cs, []⟩

/-- A quoted text, from after its opening quote. -/
def quoted (policy : UnclosedPolicy) (quote : Char) (cs : List Char) : Lexeme :=
  let tail := throughQuote quote cs
  ⟨.token (if tail.closed then .string else policy.kind .string), quote :: tail.text, tail.rest⟩

def word (vocabulary : Vocabulary) (c : Char) (cs : List Char) : Lexeme :=
  let text := c :: cs.takeWhile continuesWord
  ⟨.token (vocabulary.classify (String.ofList text)), text, cs.dropWhile continuesWord⟩

/-- An operator, a delimiter or a character of no class. -/
def symbol (c : Char) (cs : List Char) : Lexeme :=
  match longestOperator? (c :: cs) with
  | some op => ⟨.token .operator, (c :: cs).take op.length, (c :: cs).drop op.length⟩
  | none => ⟨.token (if isDelimiter c then .delimiter else .invalid), [c], cs⟩

/-- The first lexeme of the line `c :: cs`. -/
def next (vocabulary : Vocabulary) (policy : UnclosedPolicy) (c : Char) (cs : List Char) :
    Lexeme :=
  if Text.isBlank c then run .blank c Text.isBlank cs
  else if c = '#' then ⟨.token .comment, c :: cs, []⟩
  else if isQuote c then
    if [c, c].isPrefixOf cs then block c (cs.drop 2) else quoted policy c cs
  else if beginsWord c then word vocabulary c cs
  else if c.isDigit then run (.token .number) c continuesNumber cs
  else symbol c cs

end Lexeme

/-! ## Section 4: Nothing is lost -/

theorem throughTriple_append {quote : Char} {cs text rest : List Char}
    (h : throughTriple quote cs = some (text, rest)) : text ++ rest = cs := by
  induction cs generalizing text with
  | nil => simp [throughTriple] at h
  | cons c cs ih =>
    simp only [throughTriple] at h
    split at h
    · next hp =>
      simp only [Option.some.injEq, Prod.mk.injEq] at h
      obtain ⟨rfl, rfl⟩ := h
      obtain ⟨tail, htail⟩ := List.isPrefixOf_iff_prefix.mp hp
      rw [← htail]
      rfl
    · simp only [Option.map_eq_some_iff, Prod.mk.injEq, Prod.exists] at h
      obtain ⟨text', rest', h', rfl, rfl⟩ := h
      simp [ih h']

theorem throughQuote_append (quote : Char) (cs : List Char) :
    (throughQuote quote cs).text ++ (throughQuote quote cs).rest = cs := by
  fun_induction throughQuote quote cs with
  | case1 => rfl
  | case2 => rfl
  | case3 c cs ih => simpa [QuotedTail.push] using ih
  | case4 cs => rfl
  | case5 c cs _ _ _ ih => simpa [QuotedTail.push] using ih

/-- An operator that is found is a listed one with which the text starts. -/
theorem longestOperator?_mem {text : List Char} {op : String}
    (h : longestOperator? text = some op) : op ∈ operators ∧ op.toList <+: text := by
  obtain ⟨n, -, hn⟩ := List.exists_of_findSome?_eq_some h
  have hop := List.find?_some hn
  simp only [Bool.and_eq_true, List.isPrefixOf_iff_prefix] at hop
  exact ⟨List.mem_of_find?_eq_some hn, hop.2⟩

/-- No operator is the empty text. -/
theorem length_pos_of_mem_operators {op : String} (h : op ∈ operators) : 0 < op.length := by
  revert op
  decide

namespace Lexeme

theorem symbol_append (c : Char) (cs : List Char) :
    (symbol c cs).text ++ (symbol c cs).rest = c :: cs := by
  unfold symbol
  split <;> simp

theorem symbol_text_ne_nil (c : Char) (cs : List Char) : (symbol c cs).text ≠ [] := by
  unfold symbol
  split
  · next op h =>
    have := length_pos_of_mem_operators (longestOperator?_mem h).1
    simp only [ne_eq, List.take_eq_nil_iff, reduceCtorEq, or_false]
    omega
  · simp

theorem block_append (quote : Char) (cs : List Char) :
    (block quote cs).text ++ (block quote cs).rest = quote :: quote :: quote :: cs := by
  unfold block
  split
  · next h => simpa using throughTriple_append h
  · simp

/-- A lexeme and the rest of its line are the line. -/
theorem next_append (vocabulary : Vocabulary) (policy : UnclosedPolicy) (c : Char)
    (cs : List Char) :
    (next vocabulary policy c cs).text ++ (next vocabulary policy c cs).rest = c :: cs := by
  unfold next
  split
  · simp [run, List.takeWhile_append_dropWhile]
  split
  · simp
  split
  · split
    · next hp =>
      obtain ⟨tail, rfl⟩ := List.isPrefixOf_iff_prefix.mp hp
      exact block_append c tail
    · simpa [quoted] using throughQuote_append c cs
  split
  · simp [word, List.takeWhile_append_dropWhile]
  split
  · simp [run, List.takeWhile_append_dropWhile]
  · exact symbol_append c cs

/-- A lexeme is never empty. -/
theorem next_text_ne_nil (vocabulary : Vocabulary) (policy : UnclosedPolicy) (c : Char)
    (cs : List Char) : (next vocabulary policy c cs).text ≠ [] := by
  unfold next
  split
  · simp [run]
  split
  · simp
  split
  · split
    · unfold block
      split <;> simp
    · simp [quoted]
  split
  · simp [word]
  split
  · simp [run]
  · exact symbol_text_ne_nil c cs

/-- What follows a lexeme is no longer than what follows its first character. -/
theorem next_rest_length_le (vocabulary : Vocabulary) (policy : UnclosedPolicy) (c : Char)
    (cs : List Char) : (next vocabulary policy c cs).rest.length ≤ cs.length := by
  have h := congrArg List.length (next_append vocabulary policy c cs)
  have := List.length_pos_iff.mpr (next_text_ne_nil vocabulary policy c cs)
  simp only [List.length_append, List.length_cons] at h
  omega

end Lexeme

end ScriptCheck
