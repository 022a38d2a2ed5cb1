import PawnScope.Buffer
import PawnScope.Session.Methods

/-! # Parameters of messages

What the methods take from their parameters, once these have been read by their shapes. -/

namespace PawnScope.Session

/-! ## Plain values -/

def string? : Json → Option String
  | .str s => some s
  | _ => none

def int? : Json → Option Int
  | .int n => some n
  | _ => none

def nat? (j : Json) : Option Nat := (int? j).map Int.toNat

def list? {α : Type} (item? : Json → Option α) : Json → Option (List α)
  | .arr items => items.mapM item?
  | _ => none

def location? (j : Json) : Option Location := (string? j).bind fun s => (Location.read s).toOption

/-- A value under a key that is not null. -/
def present? (key : String) (j : Json) : Option Json := (j.field? key).filter (!·.isNull)

/-- A value that must be under a key. -/
def need? {α : Type} (value? : Json → Option α) (key : String) (j : Json) : Option α :=
  (j.field? key).bind value?

/-- A value that may be missing. -/
def maybe? {α : Type} (value? : Json → Option α) (key : String) (j : Json) : Option (Option α) :=
  match present? key j with
  | none => some none
  | some v => (value? v).map some

/-! ## Places -/

def position? (j : Json) : Option Position := do
  return ⟨← need? nat? "line" j, ← need? nat? "character" j⟩

def range? (j : Json) : Option TextRange := do
  return ⟨← need? position? "start" j, ← need? position? "end" j⟩

/-- The location of a document. -/
def document? : Json → Option Location := need? location? "uri"

/-- A position in a document. -/
def place? (j : Json) : Option (Location × Position) := do
  return (← need? document? "textDocument" j, ← need? position? "position" j)

/-! ## Documents -/

structure OpenParams where
  location : Location
  version : Int
  text : String

def open? : Json → Option OpenParams :=
  need? (fun d => do
    return ⟨← document? d, ← need? int? "version" d, ← need? string? "text" d⟩) "textDocument"

structure ChangeParams where
  location : Location
  version : Int
  changes : List Change

def change? (j : Json) : Option Change := do
  return ⟨← maybe? range? "range" j, ← need? string? "text" j⟩

def changes? (j : Json) : Option ChangeParams := do
  let (location, version) ← need? (fun d => do
    return (← document? d, ← need? int? "version" d)) "textDocument" j
  return ⟨location, version, ← need? (list? change?) "contentChanges" j⟩

def close? : Json → Option Location := need? document? "textDocument"

def settings? (j : Json) : Option Json := j.field? "settings"

/-! ## The start -/

structure StartParams where
  rootUri : Option Location
  folders : Option (List Location)
  options : Option Json

def start? (j : Json) : Option StartParams := do
  return ⟨← maybe? location? "rootUri" j, ← maybe? (list? document?) "workspaceFolders" j,
    present? "initializationOptions" j⟩

/-- Parameters that tell nothing. -/
def nothing? (_ : Json) : Option Unit := some ()

end PawnScope.Session
