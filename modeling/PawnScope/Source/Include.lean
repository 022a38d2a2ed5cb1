import PawnScope.Source.Comment
import PawnScope.Source.Lexeme
import PawnScope.Text.Lines

/-! # Include directives

The `#include` and `#tryinclude` lines of a source text, outside block comments. -/

namespace PawnScope

/-- An include directive as it is written. -/
structure Include where
  /-- The text between the delimiters, trimmed. -/
  reference : String
  /-- Written with angle brackets: a header of the standard library. -/
  isBuiltin : Bool := false
  /-- Written `#tryinclude`: it may be missing. -/
  isTry : Bool := false
  /-- The line of the directive, counted from zero. -/
  line : Nat := 0
  deriving DecidableEq, Repr, Inhabited

/-- The include that every file has without writing it. -/
def Include.implicitSourcemod : Include where
  reference := "sourcemod"
  isBuiltin := true

namespace Source

open Text

/-- The reference between two delimiters, if it is closed and not empty. -/
def delimited? (closing : Char) (s : List Char) : Option (List Char) :=
  match s.dropWhile (· != closing) with
  | [] => none
  | _ => nonNil (s.takeWhile (· != closing))
where
  nonNil : List Char → Option (List Char)
    | [] => none
    | s => some s

/-- The directive of a line without block comments. A reference of white space only is none. -/
def include? (line : Nat) (s : List Char) : Option Include := do
  let s := trimStart (← mark? '#' s)
  let (isTry, s) ←
    ((literal? "include" s).map fun s => (false, s)).or
      ((literal? "tryinclude" s).map fun s => (true, s))
  let (isBuiltin, reference) ←
    match trimStart s with
    | '<' :: s => (delimited? '>' s).map fun r => (true, r)
    | '"' :: s => (delimited? '"' s).map fun r => (false, r)
    | _ => none
  let reference := trim reference
  if reference.isEmpty then none
  else some ⟨String.ofList reference, isBuiltin, isTry, line⟩

/-- The directives of some lines, of which the first has number `line` and starts inside a block
comment if `inside`. -/
def includesFrom (inside : Bool) (line : Nat) : List (List Char) → List Include
  | [] => []
  | s :: rest =>
      let (visible, inside') := stripBlocks inside s
      (include? line visible).toList ++ includesFrom inside' (line + 1) rest

/-- The include directives of a text, in order. -/
def includes (text : String) : List Include := includesFrom false 0 (lines text.toList)

end Source

end PawnScope
