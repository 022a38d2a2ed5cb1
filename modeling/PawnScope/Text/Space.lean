/-! # White space

The characters that count as white space everywhere in this library, and the trimming that
goes with them. Text is taken apart as a list of characters. -/

namespace PawnScope.Text

/-- The characters with the Unicode property White_Space. The zero-width space and the byte
order mark do not have it. -/
def isSpace (c : Char) : Bool :=
  let n := c.toNat
  (9 ≤ n && n ≤ 13) || n == 0x20 || n == 0x85 || n == 0xA0 || n == 0x1680 ||
    (0x2000 ≤ n && n ≤ 0x200A) || n == 0x2028 || n == 0x2029 || n == 0x202F || n == 0x205F ||
    n == 0x3000

/-- Every character is white space. The empty text is blank. -/
def isBlank (s : List Char) : Bool := s.all isSpace

def trimStart (s : List Char) : List Char := s.dropWhile isSpace

def trimEnd (s : List Char) : List Char := (s.reverse.dropWhile isSpace).reverse

/-- The text without the white space around it. -/
def trim (s : List Char) : List Char := trimEnd (trimStart s)

end PawnScope.Text
