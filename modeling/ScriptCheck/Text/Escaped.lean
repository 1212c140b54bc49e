import ScriptCheck.Text.GraphemeExtend
import ScriptCheck.Text.Unprintable

/-! # Escaped Text

  Text that is shown between quotes is written so that nothing in it can be
  mistaken for a quote, a line end or an empty place:

  - seven characters have an escape of their own, a backslash and one letter;
  - a character without a glyph is written as its code point, `\u{…}` with
    lower-case hexadecimal digits and no leading zeros;
  - so is a character that combines with the one before it, but only at the very
    start, where it would be drawn on the opening quote;
  - every other character stands for itself.
-/

namespace ScriptCheck.Text

/-! ## Section 1: One character -/

/-- The letter that follows the backslash, for the characters that have a short escape. -/
def shortEscape (c : Char) : Option Char :=
  match c with
  | '\x00' => some '0'
  | '\t' => some 't'
  | '\r' => some 'r'
  | '\n' => some 'n'
  | '\x27' => some '\x27'
  | '\x22' => some '\x22'
  | '\\' => some '\\'
  | _ => none

/-- A character written as its code point. -/
def codePointEscape (c : Char) : List Char :=
  '\\' :: 'u' :: '\x7b' :: (Nat.toDigits 16 c.toNat ++ ['\x7d'])

/-- One character as it is shown; `hidden` says which characters without a short
    escape are written as code points. -/
def escapeChar (hidden : Char → Bool) (c : Char) : List Char :=
  match shortEscape c with
  | some letter => ['\\', letter]
  | none => if hidden c then codePointEscape c else [c]

/-! ## Section 2: A text -/

def escapeChars : List Char → List Char
  | [] => []
  | first :: rest =>
    escapeChar (fun c => combines c || isUnprintable c) first
      ++ rest.flatMap (escapeChar isUnprintable)

/-- The text as it is shown between quotes. -/
def escape (text : String) : String := String.ofList (escapeChars text.toList)

end ScriptCheck.Text
