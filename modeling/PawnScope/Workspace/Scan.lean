import PawnScope.Workspace

/-! # Scanning folders

The source files below a folder, found by their extension in either case. -/

namespace PawnScope

/-- An ASCII letter in lower case. -/
def lowerOctet (b : UInt8) : UInt8 := if 65 ≤ b && b ≤ 90 then b + 32 else b

/-- The extension marks a source file or a header. -/
def Path.isSource (p : Path) : Bool :=
  match p.extension? with
  | some extension =>
      let text := extension.map lowerOctet
      text = [115, 112] || text = [105, 110, 99]
  | none => false

namespace Workspace

/-- The outline of a file, if it is a source file that can be read. -/
def scanFile? (disk : Disk) (p : Path) : Option (Location × Outline) := do
  let text ← disk.readText? p
  let l ← Location.ofPath? p
  if p.isSource then some (l, Outline.ofText text) else none

/-- The source files below a folder, in the order of their locations. -/
def scanFolder (disk : Disk) (folder : Location) : List (Location × Outline) :=
  match folder.filePath? with
  | none => []
  | some root =>
      ((disk.filesBelow root).filterMap (scanFile? disk)).mergeSort fun a b => a.1.precedes b.1

/-- The source files below all folders, folder by folder. -/
def scanFolders (w : Workspace) (disk : Disk) : List (Location × Outline) :=
  w.folders.flatMap (scanFolder disk)

end Workspace

end PawnScope
