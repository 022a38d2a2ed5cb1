/-! # UTF-16 columns

Editors count columns in UTF-16 code units, while a line is taken apart by characters. -/

namespace PawnScope.Text

/-- One unit, or two for a character beyond the basic plane. -/
def unitCount (c : Char) : Nat := if c.toNat < 0x10000 then 1 else 2

/-- The number of UTF-16 units of a text. -/
def units : List Char → Nat
  | [] => 0
  | c :: s => unitCount c + units s

/-- The number of characters that make up the first `column` units of a line: a column inside
a pair counts the pair, and a column beyond the end counts the whole line. -/
def charIndex : List Char → Nat → Nat
  | [], _ => 0
  | c :: s, column => if column = 0 then 0 else 1 + charIndex s (column - unitCount c)

end PawnScope.Text
