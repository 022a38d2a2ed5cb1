import PawnScope.Source.Lexeme
import PawnScope.Symbol

/-! # Parameter lists

The text between the parentheses of a header, divided at its outermost commas. Parentheses,
brackets and braces nest and are counted together, whichever closes whichever. -/

namespace PawnScope.Source

open Text

def isOpening (c : Char) : Bool := c == '(' || c == '\x7b' || c == '['

def isClosing (c : Char) : Bool := c == ')' || c == '\x7d' || c == ']'

/-- How a character changes the depth of nesting. -/
def nesting (c : Char) : Int := if isOpening c then 1 else if isClosing c then -1 else 0

/-! ## Finding the list -/

/-- The text up to the sign that closes `depth` open ones, if they are closed. -/
def untilClosed : Nat → List Char → Option (List Char)
  | _, [] => none
  | depth, c :: s =>
      if isOpening c then (untilClosed (depth + 1) s).map (c :: ·)
      else if isClosing c then
        if depth ≤ 1 then some [] else (untilClosed (depth - 1) s).map (c :: ·)
      else (untilClosed depth s).map (c :: ·)

/-- The text between the first parenthesis of a header and the sign that closes it, or nothing
while the header is open. -/
def parameterList? (header : List Char) : Option (List Char) :=
  match header.dropWhile (· != '(') with
  | [] => none
  | _ :: s => untilClosed 1 s

/-! ## Dividing the list -/

/-- Divides a text at its commas outside all nesting. A text whose nesting has gone below zero
is outside it again only when it is back at zero. -/
def splitCommas (depth : Int) : List Char → List (List Char)
  | [] => [[]]
  | c :: s =>
      if c = ',' ∧ depth = 0 then [] :: splitCommas depth s
      else
        match splitCommas (depth + nesting c) s with
        | [] => [[c]]
        | first :: rest => (c :: first) :: rest

/-- Divides a text at its first equals sign outside all nesting. -/
def cutDefault (depth : Int) : List Char → Option (List Char × List Char)
  | [] => none
  | c :: s =>
      if c = '=' ∧ depth = 0 then some ([], s)
      else (cutDefault (depth + nesting c) s).map fun (front, back) => (c :: front, back)

/-! ## One parameter -/

/-- The name at the start of a text that holds nothing else but array dimensions: the name and
the dimensions. -/
def nameAndDimensions? (s : List Char) : Option (List Char × List Char) := do
  let (name, rest) ← name? s
  if (dimensions rest).isEmpty then some (name, trimStart rest) else none

/-- Divides a declaration into what precedes the name, the name and the dimensions after it. The
name starts as early as it can, on the first line. -/
def cutName : List Char → Option (List Char × List Char × List Char)
  | [] => none
  | c :: s =>
      match nameAndDimensions? (c :: s) with
      | some (name, dims) => some ([], name, dims)
      | none =>
          if c = '\n' then none
          else (cutName s).map fun (front, name, dims) => (c :: front, name, dims)

/-- A text that is there unless it is empty. -/
def nonempty? (s : List Char) : Option String :=
  if s.isEmpty then none else some (String.ofList s)

/-- The text before three dots at the end. -/
def beforeDots? (s : List Char) : Option (List Char) :=
  if s.reverse.take 3 = ['.', '.', '.'] then some (s.take (s.length - 3)) else none

/-- A declaration without its default. The dimensions after the name belong to the type. -/
def declared? (decl : List Char) (default : Option String) : Option Parameter :=
  match beforeDots? decl with
  | some front => some ⟨"...", nonempty? (trim front), default⟩
  | none => do
      let (front, name, dims) ← cutName decl
      let type := trim front ++ dims.filter (!isSpace ·)
      return ⟨String.ofList name, nonempty? type, default⟩

/-- One parameter of a list. -/
def parameter? (text : List Char) : Option Parameter :=
  let s := trim text
  if s.isEmpty then none
  else
    match cutDefault 0 s with
    | some (decl, default) => declared? (trim decl) (some (String.ofList (trim default)))
    | none => declared? s none

/-- The parameters of a list. What is no declaration is left out. -/
def parameters (list : List Char) : List Parameter := (splitCommas 0 list).filterMap parameter?

end PawnScope.Source
