import PawnScope.Cursor
import PawnScope.Index.Visibility

/-! # Queries

What an editor asks the index: the symbols that a file sees, the declaration of a name, and the
signature of the call around the cursor. -/

namespace PawnScope

/-- The answer to a question about the call around the cursor. -/
structure CallHelp where
  name : Option String := none
  activeParameter : Nat := 0
  /-- The first visible declaration of the name. -/
  symbol : Option Symbol := none
  deriving DecidableEq, Repr, Inhabited

namespace Index

/-- The symbols of all visible files, file by file. A name may occur in several files. -/
def symbols (x : Index) (disk : Disk) (l : Location) : Except QueryError (List Symbol) := do
  return ((← x.visible disk l).filterMap x.table?).flatMap SymbolTable.toList

/-- The symbols that fit the cursor: members after a dot, and all others elsewhere. -/
def completions (x : Index) (disk : Disk) (l : Location) (line : List Char) (column : Nat) :
    Except QueryError (List Symbol) := do
  return (← x.symbols disk l).filter (·.kind.isMember == Cursor.isMemberAccess line column)

/-- The first visible declaration of a name. -/
def find (x : Index) (disk : Disk) (l : Location) (name : String) :
    Except QueryError (Option Symbol) := do
  return (← x.symbols disk l).find? (·.name = name)

/-- What is shown for a word. -/
def hover (x : Index) (disk : Disk) (l : Location) (word : String) :
    Except QueryError (Option String) := do
  return (← x.find disk l word).map Symbol.markdown

/-- The call around the cursor and its declaration. -/
def callHelp (x : Index) (disk : Disk) (l : Location) (line : List Char) (column : Nat) :
    Except QueryError CallHelp :=
  match Cursor.call? line column with
  | none => .ok {}
  | some call => do
      return ⟨some call.name, call.activeParameter, ← x.find disk l call.name⟩

end Index

end PawnScope
