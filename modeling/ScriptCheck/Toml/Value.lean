import ScriptCheck.Toml.Decimal

/-! # TOML Values

  The values of a TOML document, and how tables grow while a document is read.

  A number can be written that nothing can hold. It is no fault of the document:
  only whoever looks at the value finds that it cannot be represented.

  A table can be written in several places, but not in any mixture of ways.
  Where it came from decides what may still be added to it:

  * a table with a header of its own is complete but for tables below it;
  * a table that only stands on the way to another header can still get its own,
    or a dotted key, and counts from then on as made that way;
  * a table made by dotted keys can get more dotted keys, but no header;
  * a table in braces is complete.
-/

namespace ScriptCheck.Toml

/-! ## Section 1: Values -/

/-- How a table came into a document. -/
inductive TableOrigin where
  /-- It has a header, or is the document itself. -/
  | header
  /-- It stands on the way to a header. -/
  | implied
  /-- Dotted keys made it. -/
  | dotted
  /-- It is written in braces. -/
  | inline
  deriving DecidableEq, Repr

/-- A value of a document. Times are recognized but not evaluated. -/
inductive Value where
  | string (text : String)
  /-- An integer of any size. -/
  | integer (value : Int)
  /-- What is written like an integer and stands for none: the mark of a base that no digits follow,
      such as `0x`, or groups that do not hold digits alone, such as `1_a`. -/
  | valueless
  /-- A float without its sign; the infinities and what is not a number have no magnitude. -/
  | float (magnitude : Option Decimal)
  | boolean (value : Bool)
  | time (text : String)
  /-- An array in square brackets. -/
  | array (items : List Value)
  /-- The tables that double-bracket headers list under one name. -/
  | tables (items : List Value)
  | table (origin : TableOrigin) (entries : List (String × Value))
  deriving Inhabited

/-- The entries of a table, in the order in which their keys were first written. -/
abbrev Entries := List (String × Value)

mutual

/-- Everything in the value can be held: its integers in 128 bits, with a sign or without, and its
    floats in a double that is not infinite. -/
def Value.isRepresentable : Value → Bool
  | .integer n => -(2 ^ 127) ≤ n && n < 2 ^ 128
  | .valueless => false
  | .float (some magnitude) => !magnitude.exceedsDoubles
  | .array items => areRepresentable items
  | .tables items => areRepresentable items
  | .table _ entries => areRepresentableEntries entries
  | _ => true

def areRepresentable : List Value → Bool
  | [] => true
  | value :: rest => value.isRepresentable && areRepresentable rest

def areRepresentableEntries : List (String × Value) → Bool
  | [] => true
  | (_, value) :: rest => value.isRepresentable && areRepresentableEntries rest

end

/-! ## Section 2: Growing tables -/

namespace Entries

def get? (entries : Entries) (key : String) : Option Value := List.lookup key entries

def update (key : String) (f : Option Value → Option Value) : Entries → Option Entries
  | [] => (f none).map fun value => [(key, value)]
  | (k, value) :: rest =>
    if k = key then (f (some value)).map fun value' => (k, value') :: rest
    else (update key f rest).map ((k, value) :: ·)

/-- Change the table that a path leads to, making the tables that are missing on the way. A path of
    dotted keys may not enter a table that has a header, and the tables that it enters count as made
    by dotted keys after that. Every path enters the last table of a list. -/
def within (dotted : Bool) (f : TableOrigin → Entries → Option Entries) :
    List String → TableOrigin → Entries → Option Entries
  | [], origin, entries => f origin entries
  | key :: path, _, entries => entries.update key fun
    | none =>
      let origin := if dotted then .dotted else .implied
      (within dotted f path origin []).map (.table origin)
    | some (.table origin inner) =>
      if origin = .inline ∨ (dotted ∧ origin = .header) then none
      else
        let origin := if dotted then .dotted else origin
        (within dotted f path origin inner).map (.table origin)
    | some (.tables items) =>
      match items.getLast? with
      | some (.table origin inner) =>
        (within dotted f path origin inner).map fun inner' =>
          .tables (items.dropLast ++ [.table origin inner'])
      | _ => none
    | some _ => none

/-- Change the table of a document that a path of headers leads to. -/
def withinHeaders (f : Entries → Option Entries) (path : List String) (entries : Entries) :
    Option Entries :=
  entries.within false (fun _ inner => f inner) path .header

def add (key : String) (value : Value) (entries : Entries) : Option Entries :=
  entries.update key fun
    | none => some value
    | some _ => none

/-- Add a value under a key, which is dotted if a path stands before it. The last table on the way
    may not be one of a list. -/
def assign (path : List String) (key : String) (value : Value) (entries : Entries) :
    Option Entries :=
  if path.isEmpty then entries.add key value
  else entries.within true (fun origin inner =>
    if origin = .dotted then inner.add key value else none) path .header

def openTable (path : List String) (key : String) (entries : Entries) : Option Entries :=
  entries.withinHeaders (f := fun inner => inner.update key fun
    | none => some (.table .header [])
    | some (.table .implied below) => some (.table .header below)
    | some _ => none) path

/-- Add a table to the list of a double-bracket header. -/
def openListed (path : List String) (key : String) (entries : Entries) : Option Entries :=
  entries.withinHeaders (f := fun inner => inner.update key fun
    | none => some (.tables [.table .header []])
    | some (.tables items) => some (.tables (items ++ [.table .header []]))
    | some _ => none) path

end Entries

end ScriptCheck.Toml
