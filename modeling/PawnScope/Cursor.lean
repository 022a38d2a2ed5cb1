/-! # The text around the cursor

What the characters of a line say about the place of the cursor: whether a member is being named,
which call the cursor is in, and which word it touches. Only one line is looked at, so nested
calls, literals and comments are not told apart. A column is a number of characters. -/

namespace PawnScope.Cursor

/-- The characters of identifiers, which are ASCII. -/
def isIdentChar (c : Char) : Bool := c.isAlphanum || c == '_'

/-- The call around the cursor. -/
structure Call where
  name : String
  /-- The argument under the cursor, counted from zero. -/
  activeParameter : Nat
  deriving DecidableEq, Repr, Inhabited

/-- Whether the identifier that ends at the cursor, which may be empty, follows a dot. -/
def isMemberAccess (line : List Char) (column : Nat) : Bool :=
  ((line.take column).reverse.dropWhile isIdentChar).head? == some '.'

/-- The call whose parenthesis is the last one before the cursor. A cursor right after a closing
parenthesis is in none. -/
def call? (line : List Char) (column : Nat) : Option Call :=
  let backward := (line.take column).reverse
  if backward.head? = some ')' then none
  else
    let arguments := backward.takeWhile (· != '(')
    let name := ((backward.dropWhile (· != '(')).drop 1).takeWhile isIdentChar
    if name.isEmpty then none
    else some ⟨String.ofList name.reverse, arguments.count ','⟩

/-- The identifier that the cursor is in, or at an end of. -/
def word? (line : List Char) (column : Nat) : Option String :=
  let left := ((line.take column).reverse.takeWhile isIdentChar).reverse
  let right := (line.drop column).takeWhile isIdentChar
  if (left ++ right).isEmpty then none else some (String.ofList (left ++ right))

end PawnScope.Cursor
