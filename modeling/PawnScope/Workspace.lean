import PawnScope.Buffer
import PawnScope.Config.Settings
import PawnScope.Index.Visibility
import PawnScope.Source.Outline

/-! # The workspace

Open documents, workspace folders and the index of all known files. A file is known because it is
open, because a folder was scanned, or because a known file includes it. Every operation that
looks at the disk takes it as a value. -/

namespace PawnScope

/-- A known file: its outline and the edges of its includes. -/
structure SourceFile where
  outline : Outline
  edges : List (Include × Edge)
  deriving Inhabited

/-- The files to which the includes of a file lead, placeholders apart. -/
def SourceFile.targets (f : SourceFile) : List Location :=
  ((f.edges.map (·.2)).filter (!·.isUnresolved)).map (·.target)

structure Workspace where
  buffers : Catalog Location Buffer := {}
  folders : List Location := []
  index : Index := {}
  files : Catalog Location SourceFile := {}
  deriving Inhabited

/-- The includes of a file under a configuration: what it writes, after the implicit one. -/
def Config.effectiveIncludes (c : Config) (o : Outline) : List Include :=
  (if c.implicitSourcemod then [Include.implicitSourcemod] else []) ++ o.includes

namespace Workspace

/-! ## Indexing -/

/-- Records a file and builds its table. -/
def indexOutline (w : Workspace) (disk : Disk) (l : Location) (o : Outline) : Workspace :=
  let edges := w.index.resolveAll disk (w.index.config.effectiveIncludes o)
  { w with
    index := w.index.update l o.symbols (edges.map (·.2))
    files := w.files.insert l ⟨o, edges⟩ }

/-- The text of the file at a location. -/
def readText? (disk : Disk) (l : Location) : Option String := l.filePath?.bind disk.readText?

/-- Indexes a file from disk, if it can be read. -/
def loadFile (w : Workspace) (disk : Disk) (l : Location) : Workspace :=
  match readText? disk l with
  | some text => w.indexOutline disk l (Outline.ofText text)
  | none => w

/-- Indexes files from disk, those that can be read. -/
def loadAll (w : Workspace) (disk : Disk) (ls : List Location) : Workspace :=
  ls.foldl (·.loadFile disk ·) w

/-- The files that known files include, placeholders apart, and the main file. -/
def wanted (w : Workspace) (disk : Disk) : List Location :=
  w.files.values.flatMap SourceFile.targets ++ (w.index.main? disk).toList

/-- The wanted files that are neither known nor among those tried before, once each. -/
def missing (w : Workspace) (disk : Disk) (tried : List Location) : List Location :=
  ((w.wanted disk).filter fun l => !w.files.contains l && l ∉ tried).eraseDups

/-- Loads missing files in rounds, since a file that is loaded may want others. -/
def loadRounds (disk : Disk) : Nat → List Location → Workspace → Workspace
  | 0, _, w => w
  | fuel + 1, tried, w =>
      match w.missing disk tried with
      | [] => w
      | found => loadRounds disk fuel (tried ++ found) (w.loadAll disk found)

/-- Indexes the files that are reached only through includes or the main path. They are not
registered, so that they never take a base name from a file of the workspace. After the first
round, a round finds something only if the round before it has read a text that no earlier one
has read, so that there are no more rounds than files and one. -/
def loadDependencies (w : Workspace) (disk : Disk) : Workspace :=
  loadRounds disk (disk.fileCount + 1) [] w

/-- Indexes every known file again under the current registry and configuration. -/
def rebuild (w : Workspace) (disk : Disk) : Workspace :=
  w.files.entries.foldl (fun w e => w.indexOutline disk e.1 e.2.outline) w

/-- Rebuilds every table and loads what is missing. -/
def reresolve (w : Workspace) (disk : Disk) : Workspace := (w.rebuild disk).loadDependencies disk

/-- Indexes a text as the content of a file. A file that was not known may be what other files
include, so all of them are resolved again. -/
def indexText (w : Workspace) (disk : Disk) (l : Location) (text : String) : Workspace :=
  let isNew := !w.files.contains l
  let w' := { w with index := w.index.register l }.indexOutline disk l (Outline.ofText text)
  if isNew && 1 < w'.files.size then w'.reresolve disk else w'.loadDependencies disk

/-! ## Folders and settings -/

/-- Adds a folder. Its path, if it has one, becomes a workspace root. -/
def addFolder (w : Workspace) (folder : Location) : Workspace :=
  let config := w.index.config
  { w with
    folders := w.folders ++ [folder]
    index := { w.index with
      config := { config with
        workspaceRoots := config.workspaceRoots ++ folder.filePath?.toList } } }

/-- The workspace under a new configuration. Includes are resolved again only if they may lead
elsewhere. -/
def setConfig (w : Workspace) (disk : Disk) (config : Config) : Workspace :=
  let w' := { w with index := { w.index with config := config } }
  if w.index.config.includesDiffer config then w'.reresolve disk else w'.loadDependencies disk

/-- The workspace after the editor has sent settings, if they are usable. -/
def applySettings? (w : Workspace) (disk : Disk) (settings : Json) : Option Workspace :=
  (w.index.config.applySettings? settings).map (w.setConfig disk)

/-! ## Documents -/

def openDocument (w : Workspace) (disk : Disk) (l : Location) (text : String)
    (version : Option Int) : Workspace :=
  { w with buffers := w.buffers.insert l { text, version } }.indexText disk l text

/-- Changes an open document. A document that is not open does not change. -/
def changeDocument (w : Workspace) (disk : Disk) (l : Location) (changes : List Change)
    (version : Option Int) : Workspace :=
  match w.buffers.get? l with
  | none => w
  | some b =>
      let b := { changes.foldl Buffer.apply b with version := version }
      { w with buffers := w.buffers.insert l b }.indexText disk l b.text

/-- Forgets a file. -/
def dropFile (w : Workspace) (l : Location) : Workspace :=
  { w with
    index := (w.index.remove l).unregister l
    files := w.files.erase l }

/-- Closes a document. The file stays known if it is on disk. -/
def closeDocument (w : Workspace) (disk : Disk) (l : Location) : Workspace :=
  let w := { w with buffers := w.buffers.erase l }
  match readText? disk l with
  | some text => w.indexText disk l text
  | none => (w.dropFile l).reresolve disk

/-! ## Scanned folders -/

/-- Registers the files that a scan of the folders found and makes them known, without their
edges. Open documents keep their text. -/
def takeIn (w : Workspace) (scanned : List (Location × Outline)) : Workspace :=
  { w with
    index := scanned.foldl (fun x e => Index.register x e.1) w.index
    files := (scanned.filter fun e => !w.buffers.contains e.1).foldl
      (fun (m : Catalog Location SourceFile) e => m.insert e.1 ⟨e.2, []⟩) w.files }

/-- Takes in what a scan of the folders found. All names are registered before any include is
resolved. -/
def applyScan (w : Workspace) (disk : Disk) (scanned : List (Location × Outline)) : Workspace :=
  (w.takeIn scanned).reresolve disk

/-! ## Reports -/

/-- A line of an open document. -/
def line? (w : Workspace) (l : Location) (line : Nat) : Option (List Char) :=
  (w.buffers.get? l).bind (·.line? line)

/-- The quoted includes of a file that were not found and must not be missing. -/
def unresolved (w : Workspace) (l : Location) : List Include :=
  match w.files.get? l with
  | none => []
  | some f =>
      (f.edges.filter fun (i, e) => !i.isBuiltin && !i.isTry && e.isUnresolved).map (·.1)

end Workspace

end PawnScope
