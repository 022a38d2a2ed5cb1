import PawnScope.Disk
import PawnScope.Include.Registry

/-! # Include edges

An include directive leads to a location. It is found by its base name among the registered
files, else on disk in the include directories, in order; else it leads to a placeholder. -/

namespace PawnScope

/-- Where an include directive leads. -/
structure Edge where
  target : Location
  /-- Written with angle brackets. -/
  isBuiltin : Bool := false
  deriving DecidableEq, Repr, Inhabited

/-- The include was not found, and the target is a placeholder. -/
def Edge.isUnresolved (e : Edge) : Bool := e.target.isBuiltin

namespace Reference

/-- The location of a reference in an include directory, if a file is there. -/
def inDirectory? (disk : Disk) (reference : List Char) (directory : Path) : Option Location :=
  let candidate := directory.join ⟨Text.octets reference⟩
  if disk.has candidate then candidate.normalize?.bind Location.ofPath? else none

/-- The file that a reference names, if it is known or on disk. -/
def target? (disk : Disk) (registry : Registry) (directories : List Path)
    (reference : List Char) : Option Location :=
  (registry.resolve? (String.ofList (baseName reference))).or
    (directories.findSome? (inDirectory? disk reference))

/-- Where a reference leads. -/
def resolve (disk : Disk) (registry : Registry) (directories : List Path) (reference : String)
    (isBuiltin : Bool) : Edge :=
  let name := normalize reference.toList
  ⟨(target? disk registry directories name).getD (builtinLocation name), isBuiltin⟩

end Reference

end PawnScope
