import ScriptCheck.Settings
import ScriptCheck.Toml.Document

/-! # Settings Files

  Settings are written as a TOML document with two sections, `lexer` and
  `parser`. Everything can be left out, and what is not known is passed over; a
  known name with a value of the wrong kind makes the file unusable, and so does
  an unknown name with a value that cannot be represented.

  A section is a table, or an array of its values in the order in which this
  module lists them, after which the array may hold anything. A policy is its
  name, or a table that holds nothing but that name with nothing under it.
-/

namespace ScriptCheck.Settings

open Toml (Value Entries)

/-! ## Section 1: Sections -/

/-- A section, by which values are found under a name and a position. -/
inductive Section where
  | named (entries : Entries)
  | listed (items : List Value)

namespace Section

/-- Every value of the table can be represented, apart from those with a name that is known. -/
def canPassOver (known : List String) (entries : Entries) : Bool :=
  entries.all fun (name, value) => known.contains name || value.isRepresentable

/-- A value as a section that knows some names. A time is a section too, one in which nothing is
    set. -/
def ofValue? (known : List String) : Value → Option Section
  | .table _ entries => if canPassOver known entries then some (.named entries) else none
  | .time _ => some (.named [])
  | .array items => some (.listed items)
  | .tables items => some (.listed items)
  | _ => none

/-- The section of a document under a name; one that is missing has no values. -/
def of? (document : Entries) (name : String) (known : List String) : Option Section :=
  match document.get? name with
  | none => some (.named [])
  | some value => ofValue? known value

/-- The value under a name, in a list the one at a position. -/
def value? (s : Section) (name : String) (position : Nat) : Option Value :=
  match s with
  | .named entries => entries.get? name
  | .listed items => items[position]?

/-- Interpret a value, or take what holds if it is missing. -/
def setting (s : Section) (name : String) (position : Nat) (interpret : Value → Option α)
    (default : α) : Option α :=
  match s.value? name position with
  | none => some default
  | some value => interpret value

end Section

/-! ## Section 2: Values -/

def policyOfName? : String → Option UnclosedPolicy
  | "invalid" => some .invalid
  | "truncate" => some .truncate
  | _ => none

def policy? : Value → Option UnclosedPolicy
  | .string name => policyOfName? name
  | .table _ [(name, .table _ [])] => policyOfName? name
  | .table _ [(name, .array [])] => policyOfName? name
  | _ => none

def flag? : Value → Option Bool
  | .boolean b => some b
  | _ => none

def text? : Value → Option String
  | .string text => some text
  | _ => none

def texts? : Value → Option (List String)
  | .array items => items.mapM text?
  | .tables items => items.mapM text?
  | _ => none

/-- A value as a count, which is not negative and fits into 64 bits. -/
def count? : Value → Option Nat
  | .integer (.ofNat n) => if n < UInt64.size then some n else none
  | _ => none

/-! ## Section 3: Files -/

def ofDocument? (document : Entries) : Option Settings := do
  guard (Section.canPassOver ["lexer", "parser"] document)
  let lexer ← Section.of? document "lexer"
    ["unterminated_strings", "emit_newlines", "extra_keywords"]
  let parser ← Section.of? document "parser" ["max_nesting_depth"]
  let base : Settings := {}
  let unclosed ← lexer.setting "unterminated_strings" 0 policy? base.unclosed
  let emitNewlines ← lexer.setting "emit_newlines" 1 flag? base.emitNewlines
  let extraKeywords ← lexer.setting "extra_keywords" 2 texts? base.extraKeywords
  let nestingLimit ← parser.setting "max_nesting_depth" 0 count? base.nestingLimit
  return ⟨unclosed, emitNewlines, extraKeywords, nestingLimit⟩

/-- The settings that the text of a file states, if it is a settings file. -/
def ofToml? (text : String) : Option Settings := (Toml.parse? text).bind ofDocument?

end ScriptCheck.Settings
