import PawnScope.Disk

/-! # Configuration

All that include resolution and visibility depend on besides the files themselves. -/

namespace PawnScope

/-- The configuration of an index. -/
structure Config where
  /-- The directories in which includes are looked for, in order. -/
  includeDirectories : List Path := []
  /-- The file whose includes are visible everywhere. -/
  mainPath : Option Path := none
  /-- The folders of the workspace; relative paths start in the first. -/
  workspaceRoots : List Path := []
  /-- Every file includes the `sourcemod` header without writing it. -/
  implicitSourcemod : Bool := true
  deriving DecidableEq, Repr, Inhabited

/-- Why a query has no answer. -/
inductive QueryError where
  /-- The main path is neither on disk as it is nor below the first workspace root. -/
  | mainPathNotFound (path : Path) (workspaceRoot : Option Path)
  deriving DecidableEq, Repr

namespace QueryError

def message : QueryError → String
  | mainPathNotFound path root =>
      "Main path '" ++ path.display ++ "' not found" ++
        match root with
        | some root => " (also tried relative to '" ++ root.display ++ "')"
        | none => ""

end QueryError

namespace Config

/-- Two lists of paths with the same components. -/
def samePaths : List Path → List Path → Bool
  | [], [] => true
  | p :: ps, q :: qs => p.same q && samePaths ps qs
  | _, _ => false

/-- Whether includes may lead elsewhere under the other configuration. -/
def includesDiffer (c d : Config) : Bool :=
  !samePaths c.includeDirectories d.includeDirectories ||
    c.implicitSourcemod != d.implicitSourcemod

/-- A path as seen from the first workspace root. -/
def absolutize (c : Config) (p : Path) : Path :=
  if p.isAbsolute then p
  else
    match c.workspaceRoots.head? with
    | some root => (root.join p).normalize?.getD p
    | none => p

/-- The normalized path of the main file, if one is configured: the path as given, or else below
the first workspace root. -/
def resolveMainPath (c : Config) (disk : Disk) : Except QueryError (Option Path) :=
  match c.mainPath with
  | none => .ok none
  | some path =>
      if disk.has path then .ok (disk.cwdPath.join path).normalize?
      else
        match c.workspaceRoots.head? with
        | some root =>
            if disk.has (root.join path) then .ok (root.join path).normalize?
            else .error (.mainPathNotFound path (some root))
        | none => .error (.mainPathNotFound path none)

end Config

end PawnScope
