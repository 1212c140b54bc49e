/-! # Quoted Texts of TOML

  A text is quoted in one of four ways: with one or three quotation marks, in
  which a backslash begins an escape, or with one or three apostrophes, in which
  every character stands for itself. With three, the text may run over lines, a
  line end right after the opening is dropped, and up to two quotes may stand in
  front of the closing three.

  A text is first cut out and then decoded. Control characters other than the
  tab are refused, and so are line ends where the text has to stay on its line.
-/

namespace ScriptCheck.Toml

/-! ## Section 1: Characters -/

def isBlank (c : Char) : Bool := c == ' ' || c == '\t'

def isControl (c : Char) : Bool := (c.toNat < 32 && c != '\t') || c.toNat == 127

/-- What follows the line end with which a text starts, if it starts with one. -/
def afterLineEnd? : List Char → Option (List Char)
  | '\n' :: rest => some rest
  | '\r' :: '\n' :: rest => some rest
  | _ => none

/-! ## Section 2: Cutting out -/

/-- The text up to the quote on the same line, and what follows the quote. -/
def cutQuoted (quote : Char) : List Char → Option (List Char × List Char)
  | [] => none
  | c :: rest =>
    if c = quote then some ([], rest)
    else if c = '\n' then none
    else if c = '\\' ∧ quote = '\x22' then
      match rest with
      | [] => none
      | d :: rest => (cutQuoted quote rest).map fun (body, after) => (c :: d :: body, after)
    else (cutQuoted quote rest).map fun (body, after) => (c :: body, after)

/-- The text up to three quotes in a row, and what follows them. Of more quotes in a row the last
    three close the text, if there are at most five. -/
def cutTriple (quote : Char) : List Char → Option (List Char × List Char)
  | [] => none
  | c :: rest =>
    if [quote, quote, quote].isPrefixOf (c :: rest) then
      let more := min 2 ((rest.drop 2).takeWhile (· == quote)).length
      some (List.replicate more quote, (rest.drop 2).drop more)
    else if c = '\\' ∧ quote = '\x22' then
      match rest with
      | [] => none
      | d :: rest => (cutTriple quote rest).map fun (body, after) => (c :: d :: body, after)
    else (cutTriple quote rest).map fun (body, after) => (c :: body, after)

/-! ## Section 3: Decoding -/

def hexValue? (digits : List Char) : Option Nat :=
  digits.foldlM (fun n c =>
    if '0' ≤ c ∧ c ≤ '9' then some (16 * n + (c.toNat - 48))
    else if 'a' ≤ c ∧ c ≤ 'f' then some (16 * n + (c.toNat - 87))
    else if 'A' ≤ c ∧ c ≤ 'F' then some (16 * n + (c.toNat - 55))
    else none) 0

def charOfHex? (digits : List Char) : Option Char := do
  let n ← hexValue? digits
  if n.isValidChar then some (Char.ofNat n) else none

/-- The character of an escape that is one letter long. -/
def escaped? : Char → Option Char
  | 'b' => some '\x08'
  | 't' => some '\t'
  | 'n' => some '\n'
  | 'f' => some '\x0c'
  | 'r' => some '\r'
  | 'e' => some '\x1b'
  | '\x22' => some '\x22'
  | '\\' => some '\\'
  | _ => none

/-- A backslash before this text ends its line: only blanks stand before the line end. -/
def endsLine (rest : List Char) : Bool := (afterLineEnd? (rest.dropWhile isBlank)).isSome

/-- Decode the inside of a text between quotation marks. `multiline` allows line ends, and
    `skipping` is set after a backslash at the end of a line, when all blanks and line ends are
    dropped. -/
def decodeEscapes (multiline skipping : Bool) : List Char → Option (List Char)
  | [] => some []
  | '\\' :: 'x' :: a :: b :: rest => do
    let c ← charOfHex? [a, b]
    (decodeEscapes multiline false rest).map (c :: ·)
  | '\\' :: 'u' :: a :: b :: c :: d :: rest => do
    let c ← charOfHex? [a, b, c, d]
    (decodeEscapes multiline false rest).map (c :: ·)
  | '\\' :: 'U' :: a :: b :: c :: d :: e :: f :: g :: h :: rest => do
    let c ← charOfHex? [a, b, c, d, e, f, g, h]
    (decodeEscapes multiline false rest).map (c :: ·)
  | '\\' :: c :: rest =>
    match escaped? c with
    | some c => (decodeEscapes multiline false rest).map (c :: ·)
    | none =>
      if multiline && endsLine (c :: rest) then decodeEscapes multiline true rest else none
  | '\r' :: '\n' :: rest =>
    if !multiline then none
    else if skipping then decodeEscapes multiline true rest
    else (decodeEscapes multiline false rest).map fun body => '\r' :: '\n' :: body
  | c :: rest =>
    if c = '\n' ∧ multiline then
      if skipping then decodeEscapes multiline true rest
      else (decodeEscapes multiline false rest).map (c :: ·)
    else if isControl c || c == '\\' then none
    else if skipping && isBlank c then decodeEscapes multiline true rest
    else (decodeEscapes multiline false rest).map (c :: ·)

/-- Check the inside of a text between apostrophes. -/
def plainText? (multiline : Bool) : List Char → Option (List Char)
  | [] => some []
  | '\r' :: '\n' :: rest =>
    if multiline then (plainText? multiline rest).map fun body => '\r' :: '\n' :: body else none
  | c :: rest =>
    if isControl c && !(multiline && c == '\n') then none
    else (plainText? multiline rest).map (c :: ·)

/-! ## Section 4: Reading -/

def decodeQuoted (quote : Char) (multiline : Bool) (body : List Char) : Option String :=
  (if quote = '\x22' then decodeEscapes multiline false body else plainText? multiline body).map
    String.ofList

/-- A text quoted on one line, after its opening quote. -/
def readSingleQuoted (quote : Char) (input : List Char) : Option (String × List Char) := do
  let (body, rest) ← cutQuoted quote input
  return (← decodeQuoted quote false body, rest)

/-- A text in any quotes, after the first quote. -/
def readQuoted (quote : Char) (input : List Char) : Option (String × List Char) := do
  if [quote, quote].isPrefixOf input then
    let start := input.drop 2
    let (body, rest) ← cutTriple quote ((afterLineEnd? start).getD start)
    return (← decodeQuoted quote true body, rest)
  else readSingleQuoted quote input

end ScriptCheck.Toml
