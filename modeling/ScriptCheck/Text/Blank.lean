import ScriptCheck.Text.CodePoints

/-! # Blank Characters

  The property White_Space of Unicode 17. The line feed is one of these characters;
  the lexer meets it only as the end of a line.
-/

namespace ScriptCheck.Text

set_option maxRecDepth 8000 in
/-- The code points with the property White_Space, Unicode 17. -/
def blankRanges : CodePoints := [
    (0x9, 0xD), (0x20, 0x20), (0x85, 0x85), (0xA0, 0xA0), (0x1680, 0x1680), (0x2000, 0x200A),
    (0x2028, 0x2029), (0x202F, 0x202F), (0x205F, 0x205F), (0x3000, 0x3000)]

/-- A character that separates tokens and belongs to none. -/
def isBlank (c : Char) : Bool := blankRanges.covers c.toNat

end ScriptCheck.Text
