import PawnScope.Source.Comment

/-! # Code without literals and comments

Braces, brackets and declarations are looked for in a line whose comments are gone and whose
string and character literals have blank contents. -/

namespace PawnScope.Source

def isQuote (c : Char) : Bool := c == '"' || c == '\''

/-- Blanks the contents of literals and stops at a line comment. `quote` is the quote that the
text starts inside. A backslash in a literal hides the character after it, and the two are
written as two blanks. -/
def blankLiterals : Option Char → List Char → List Char
  | _, [] => []
  | none, c :: s =>
      if isQuote c then c :: blankLiterals (some c) s
      else if c = '/' ∧ s.head? = some '/' then []
      else c :: blankLiterals none s
  | some _, ['\\'] => [' ', ' ']
  | some q, '\\' :: _ :: s => ' ' :: ' ' :: blankLiterals (some q) s
  | some q, c :: s =>
      if c = q then c :: blankLiterals none s else ' ' :: blankLiterals (some q) s

/-- The code of a line, and whether the line ends inside a block comment. -/
def codeOf (inside : Bool) (line : List Char) : List Char × Bool :=
  let (visible, inside') := stripBlocks inside line
  (blankLiterals none visible, inside')

end PawnScope.Source
