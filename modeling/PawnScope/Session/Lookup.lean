import PawnScope.Session

/-! # Lookups

The places of the disk that a message makes a session look at. A server that cannot hold the whole
disk reads these, handles the message, and starts over if the answer led to further places. -/

namespace PawnScope.Session

/-- A path that is tested or read, or a folder that is read as a whole. -/
inductive Lookup where
  | path (path : Path)
  | folder (path : Path)
  deriving DecidableEq, Repr

/-- The paths at which the includes of a file are looked for. -/
def includePaths (config : Config) (o : Outline) : List Path :=
  (config.effectiveIncludes o).flatMap fun i =>
    config.includeDirectories.map fun d =>
      d.join ⟨Text.octets (Reference.normalize i.reference.toList)⟩

/-- The paths at which the main file is looked for. -/
def mainPaths (config : Config) : List Path :=
  match config.mainPath with
  | none => []
  | some p => p :: config.workspaceRoots.head?.toList.map (·.join p)

/-- The paths that a workspace depends on. -/
def workspacePaths (w : Workspace) (disk : Disk) : List Path :=
  w.files.values.flatMap (fun f => includePaths w.index.config f.outline) ++
    mainPaths w.index.config ++ (w.wanted disk).filterMap Location.filePath?

/-- The value of the first field of a record, which may be given as a list. -/
def firstField? (key : String) : Json → Option Json
  | .arr items => items.head?
  | j => j.field? key

/-- The path of the document that a message is about. -/
def documentPath? (r : Request) : Option Path := do
  let document ← firstField? "textDocument" (← r.params)
  (← location? (← firstField? "uri" document)).filePath?

/-- The lookups of a message that turned the workspace into `after`. -/
def lookups (s : Session) (r : Request) (after : Workspace) (disk : Disk) : List Lookup :=
  let folders :=
    if r.method = "initialized" then (s.workspace.folders.filterMap Location.filePath?).map .folder
    else []
  folders ++ ((documentPath? r).toList ++ workspacePaths after disk).map .path

end PawnScope.Session
