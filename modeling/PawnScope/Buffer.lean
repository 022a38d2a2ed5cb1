import PawnScope.Text.Units

/-! # Open documents

The text of a document that an editor holds open, and the changes that the editor makes to it.
Positions are lines and UTF-16 columns. -/

namespace PawnScope

/-- A place in a text, both numbers counted from zero. -/
structure Position where
  line : Nat
  character : Nat
  deriving DecidableEq, Repr, Inhabited

structure TextRange where
  start : Position
  stop : Position
  deriving DecidableEq, Repr, Inhabited

/-- A new text for a part of a document, or for all of it. -/
structure Change where
  range : Option TextRange := none
  text : String
  deriving DecidableEq, Repr, Inhabited

/-- An open document. -/
structure Buffer where
  text : String
  /-- The version that the editor gave the text. -/
  version : Option Int := none
  /-- The number of changes. -/
  revision : Nat := 0
  deriving DecidableEq, Repr, Inhabited

namespace Buffer

/-! ## Lines -/

/-- The characters that end a line in an editor. A carriage return and a line feed end it
together. -/
def isBreak (c : Char) : Bool :=
  c == '\n' || c == '\r' || c == '\x0b' || c == '\x0c' || c == '\u0085' || c == '\u2028' ||
    c == '\u2029'

/-- Puts a character in front of some lines. -/
def addChar (c : Char) : List (List Char) → List (List Char)
  | [] => if isBreak c then [[c], []] else [[c]]
  | line :: rest =>
      if isBreak c && !(c == '\r' && line.head? == some '\n') then [c] :: line :: rest
      else (c :: line) :: rest

/-- The lines of a text with the characters that end them. A text ends with a line that nothing
ends, which may be empty. -/
def linesOf (s : List Char) : List (List Char) := s.foldr addChar [[]]

def lines (b : Buffer) : List (List Char) := linesOf b.text.toList

/-- A line without the line feeds and carriage returns at its end. Other breaks stay. -/
def dropBreak (line : List Char) : List Char :=
  (line.reverse.dropWhile fun c => c == '\n' || c == '\r').reverse

/-- The text of a line. -/
def line? (b : Buffer) (n : Nat) : Option (List Char) := (b.lines[n]?).map dropBreak

/-! ## Changes -/

/-- The number of characters before a position. A column beyond the end of its line is at that
end, and a line beyond the last is at the end of the text. -/
def charIndex (s : List Char) (p : Position) : Nat :=
  let lines := linesOf s
  match lines[p.line]? with
  | none => s.length
  | some line => (lines.take p.line).flatten.length + Text.charIndex (dropBreak line) p.character

/-- The text with the characters from `start` up to `stop` replaced; nothing is replaced if
`stop` comes first. -/
def splice (s : List Char) (start stop : Nat) (new : List Char) : List Char :=
  s.take start ++ new ++ s.drop (max start stop)

/-- Makes one change. -/
def apply (b : Buffer) (change : Change) : Buffer :=
  let text :=
    match change.range with
    | none => change.text
    | some range =>
        let s := b.text.toList
        String.ofList
          (splice s (charIndex s range.start) (charIndex s range.stop) change.text.toList)
  { b with text := text, revision := b.revision + 1 }

end Buffer

end PawnScope
