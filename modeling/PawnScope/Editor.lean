import PawnScope.Index.Query
import PawnScope.Workspace

/-! # Answers to an editor

Completion, hover, signature help and diagnostics, for positions in open documents. -/

namespace PawnScope.Editor

/-- One completion. -/
structure Completion where
  label : String
  kind : SymbolKind
  detail : String
  documentation : Option String
  deriving DecidableEq, Repr, Inhabited

/-- The signature of the call around the cursor. -/
structure SignatureHelp where
  label : String
  documentation : Option String
  /-- The labels of the parameters, if the symbol can be called. -/
  parameters : Option (List String)
  activeParameter : Nat
  deriving DecidableEq, Repr, Inhabited

/-- A warning about an include that was not found. -/
structure Diagnostic where
  range : TextRange
  message : String
  deriving DecidableEq, Repr, Inhabited

/-- The line of a position in an open document, and the column in characters. -/
def cursor? (w : Workspace) (l : Location) (p : Position) : Option (List Char × Nat) := do
  let line ← w.line? l p.line
  return (line, Text.charIndex line p.character)

def Completion.ofSymbol (s : Symbol) : Completion := ⟨s.name, s.kind, s.label, s.documentation⟩

/-- The completions at a position. -/
def completion (w : Workspace) (disk : Disk) (l : Location) (p : Position) :
    Except QueryError (Option (List Completion)) :=
  match cursor? w l p with
  | none => .ok none
  | some (line, column) => do
      return some ((← w.index.completions disk l line column).map Completion.ofSymbol)

/-- What is shown for the word at a position. -/
def hover (w : Workspace) (disk : Disk) (l : Location) (p : Position) :
    Except QueryError (Option String) :=
  match (cursor? w l p).bind fun (line, column) => Cursor.word? line column with
  | none => .ok none
  | some word => w.index.hover disk l word

/-- The signature of the call at a position, if its declaration is visible. -/
def signatureHelp (w : Workspace) (disk : Disk) (l : Location) (p : Position) :
    Except QueryError (Option SignatureHelp) :=
  match cursor? w l p with
  | none => .ok none
  | some (line, column) => do
      let help ← w.index.callHelp disk l line column
      return help.symbol.map fun s =>
        { label := s.label
          documentation := s.documentation
          parameters := s.signature.map fun g => g.parameters.map Parameter.label
          activeParameter := help.activeParameter }

/-- The warning about one include; it covers the line of the directive. -/
def diagnostic (w : Workspace) (l : Location) (i : Include) : Diagnostic where
  range := ⟨⟨i.line, 0⟩, ⟨i.line, ((w.line? l i.line).map Text.units).getD 0⟩⟩
  message := "Include \"" ++ i.reference ++ "\" not found."

def diagnostics (w : Workspace) (l : Location) : List Diagnostic :=
  (w.unresolved l).map (diagnostic w l)

end PawnScope.Editor
