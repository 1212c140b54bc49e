import ScriptCheck.Toml.Quoted
import ScriptCheck.Toml.Scalar

/-! # TOML Documents

  A document is read line by line into its table, or refused as a whole. A line
  is empty, a header, or a key with a value; a value in brackets or braces may
  run over lines, between keys and values too, and comments may stand wherever a
  line may end. Only a dotted key stays on its line.

  Every reader takes the characters that are left and gives back a value with
  the characters after it. The loops are bounded by the number of characters
  they start with, of which each turn uses at least one; brackets, braces and
  dotted keys are bounded by how deeply they may be nested.
-/

namespace ScriptCheck.Toml

/-- How deeply brackets and braces may be nested in a value, and how many keys a dotted key may
    have. -/
def nestingLimit : Nat := 80

/-! ## Section 1: Blanks and comments -/

/-- A reader of one thing at the start of a text. -/
abbrev Reader (α : Type) := List Char → Option (α × List Char)

def skipBlanks (input : List Char) : List Char := input.dropWhile isBlank

/-- The text from the end of a comment on, where a comment holds no control characters. -/
def afterComment : List Char → Option (List Char)
  | [] => some []
  | '\r' :: '\n' :: rest => some ('\r' :: '\n' :: rest)
  | '\n' :: rest => some ('\n' :: rest)
  | c :: rest => if isControl c then none else afterComment rest

/-- What follows the end of a line, before which blanks and a comment may stand. -/
def endLine (input : List Char) : Option (List Char) := do
  let rest ← match skipBlanks input with
    | '#' :: comment => afterComment comment
    | rest => some rest
  if rest.isEmpty then some [] else afterLineEnd? rest

/-- The text after blanks, comments and line ends. -/
def skipFiller : Nat → List Char → Option (List Char)
  | 0, _ => none
  | n + 1, input =>
    match skipBlanks input with
    | '#' :: comment => do skipFiller n (← afterComment comment)
    | rest =>
      match afterLineEnd? rest with
      | some rest => skipFiller n rest
      | none => some rest

/-- The text after blanks, comments and line ends, however many. -/
def skipAll (input : List Char) : Option (List Char) := skipFiller (input.length + 1) input

/-! ## Section 2: Keys -/

def isBareKey (c : Char) : Bool := c.isAlphanum || c == '_' || c == '-'

def readKey : Reader String
  | '\x22' :: rest => readSingleQuoted '\x22' rest
  | '\x27' :: rest => readSingleQuoted '\x27' rest
  | input =>
    let text := input.takeWhile isBareKey
    if text.isEmpty then none else some (String.ofList text, input.dropWhile isBareKey)

/-- The keys after the first one of a dotted key, and the text after the blanks that follow. -/
def readMoreKeys : Nat → Reader (List String)
  | 0, _ => none
  | n + 1, input =>
    match skipBlanks input with
    | '.' :: rest => do
      let (key, rest) ← readKey (skipBlanks rest)
      let (keys, rest) ← readMoreKeys n rest
      return (key :: keys, rest)
    | rest => some ([], rest)

/-- Keys with dots between them, and the text after the blanks that follow. -/
def readKeys (input : List Char) : Option (List String × List Char) := do
  let (key, rest) ← readKey (skipBlanks input)
  let (keys, rest) ← readMoreKeys (rest.length + 1) rest
  if keys.length < nestingLimit then return (key :: keys, rest) else none

/-- Keys as the way to a table and the name in it. -/
def splitKeys (keys : List String) : Option (List String × String) :=
  keys.getLast?.map fun key => (keys.dropLast, key)

/-! ## Section 3: Values -/

/-- A character of a value without quotes: one that neither is blank, nor ends a line, nor begins
    a comment, nor belongs to the writing of tables and arrays. -/
def isScalarChar (c : Char) : Bool :=
  !(isBlank c || ['\n', '\r', '#', '=', ',', '[', ']', '\x7b', '\x7d'].contains c)

/-- A value without quotes. A date and a time of day can be joined by a space. -/
def readScalar (input : List Char) : Option (Value × List Char) := do
  let text := input.takeWhile isScalarChar
  let rest := input.dropWhile isScalarChar
  match rest with
  | ' ' :: d :: more =>
    if isDate text && d.isDigit then
      let clock := (d :: more).takeWhile isScalarChar
      return (← scalar? (text ++ ' ' :: clock), (d :: more).dropWhile isScalarChar)
    else return (← scalar? text, rest)
  | _ => return (← scalar? text, rest)

/-- The items of an array, after its opening bracket. -/
def readItems (item : Reader Value) : Nat → Reader (List Value)
  | 0, _ => none
  | n + 1, input => do
    match ← skipAll input with
    | ']' :: rest => return ([], rest)
    | input =>
      let (value, rest) ← item input
      match ← skipAll rest with
      | ',' :: rest =>
        let (values, rest) ← readItems item n rest
        return (value :: values, rest)
      | ']' :: rest => return ([value], rest)
      | _ => none

/-- A key, the sign after it, and its value, with what may be skipped around the sign. -/
def readAssignment (skip : List Char → Option (List Char)) (item : Reader Value)
    (input : List Char) : Option ((List String × String × Value) × List Char) := do
  let (keys, rest) ← readKeys input
  let (path, key) ← splitKeys keys
  match ← skip rest with
  | '=' :: rest =>
    let (value, rest) ← item (← skip rest)
    return ((path, key, value), rest)
  | _ => none

/-- The entries of a table in braces, after its opening brace. -/
def readEntries (item : Reader Value) : Nat → Entries → Reader Entries
  | 0, _, _ => none
  | n + 1, entries, input => do
    match ← skipAll input with
    | '\x7d' :: rest => return (entries, rest)
    | input =>
      let ((path, key, value), rest) ← readAssignment skipAll item input
      let entries ← entries.assign path key value
      match ← skipAll rest with
      | ',' :: rest => readEntries item n entries rest
      | '\x7d' :: rest => return (entries, rest)
      | _ => none

/-- A value in which brackets and braces are nested at most so deeply. -/
def readValue : Nat → Reader Value
  | _, '\x22' :: rest => (readQuoted '\x22' rest).map fun (text, rest) => (.string text, rest)
  | _, '\x27' :: rest => (readQuoted '\x27' rest).map fun (text, rest) => (.string text, rest)
  | 0, '[' :: _ => none
  | depth + 1, '[' :: rest =>
    (readItems (readValue depth) (rest.length + 1) rest).map fun (items, rest) =>
      (.array items, rest)
  | 0, '\x7b' :: _ => none
  | depth + 1, '\x7b' :: rest =>
    (readEntries (readValue depth) (rest.length + 1) [] rest).map fun (entries, rest) =>
      (.table .inline entries, rest)
  | _, input => readScalar input

/-! ## Section 4: Lines -/

/-- A document as far as it has been read. -/
structure Document where
  entries : Entries := []
  /-- The way to the table to which keys are added. -/
  current : List String := []

namespace Document

def assign (d : Document) (path : List String) (key : String) (value : Value) :
    Option Document := do
  let entries ← d.entries.withinHeaders (Entries.assign path key value) d.current
  return { d with entries }

/-- Open the table of a header, or the next table of a list. -/
def openHeader (d : Document) (listed : Bool) (keys : List String) : Option Document := do
  let (path, key) ← splitKeys keys
  let entries ← if listed then d.entries.openListed path key else d.entries.openTable path key
  return ⟨entries, keys⟩

def readLine (d : Document) : Reader Document
  | '[' :: '[' :: rest => do
    let (keys, rest) ← readKeys rest
    match rest with
    | ']' :: ']' :: rest => return (← d.openHeader true keys, rest)
    | _ => none
  | '[' :: rest => do
    let (keys, rest) ← readKeys rest
    match rest with
    | ']' :: rest => return (← d.openHeader false keys, rest)
    | _ => none
  | input => do
    let ((path, key, value), rest) ←
      readAssignment (some ∘ skipBlanks) (readValue nestingLimit) input
    return (← d.assign path key value, rest)

def readLines (d : Document) : Nat → List Char → Option Document
  | 0, _ => none
  | n + 1, input => do
    match ← skipAll input with
    | [] => return d
    | input =>
      let (d, rest) ← d.readLine input
      d.readLines n (← endLine rest)

end Document

/-- The table of a document, or nothing if the text is not one. A byte order mark may precede it. -/
def parse? (text : String) : Option Entries :=
  let input := match text.toList with
    | '\ufeff' :: rest => rest
    | input => input
  (({} : Document).readLines (input.length + 1) input).map Document.entries

end ScriptCheck.Toml
