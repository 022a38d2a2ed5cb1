import PawnScope.Path

/-! # The disk

The disk is a finite tree of directories and files, without links. A path is looked up as Linux
does: every component before a `..` is an existing directory, a path that ends in a slash or a
dot names a directory, and the empty path names nothing. -/

namespace PawnScope

/-- A directory with named entries, or a file with its text, which is absent if the file holds
no valid UTF-8. -/
inductive Node where
  | file (text? : Option String)
  | dir (entries : List (FileName × Node))
  deriving Inhabited

namespace Node

/-- The file that holds the given octets. -/
def ofBytes (bytes : ByteArray) : Node := .file (String.fromUTF8? bytes)

/-- The entry with a given name. -/
def entry? : List (FileName × Node) → FileName → Option Node
  | [], _ => none
  | (m, node) :: rest, n => if m = n then some node else entry? rest n

/-- Follows pieces of a path from `here`, whose enclosing directories are `above`, innermost
first. Above the root there is only the root. -/
def follow : List FileName → List Node → Node → Option Node
  | [], _, here => some here
  | _ :: _, _, .file _ => none
  | piece :: rest, above, .dir entries =>
      if piece = [] ∨ piece = Path.dot then follow rest above (.dir entries)
      else if piece = Path.dotDot then
        match above with
        | [] => follow rest [] (.dir entries)
        | parent :: higher => follow rest higher parent
      else
        match entry? entries piece with
        | none => none
        | some node => follow rest (.dir entries :: above) node

/-- Replaces or adds the entry `n`, which `change` makes from the entry there is. -/
def modifyEntry (entries : List (FileName × Node)) (n : FileName)
    (change : Option Node → Node) : List (FileName × Node) :=
  match entries with
  | [] => [(n, change none)]
  | (m, node) :: rest =>
      if m = n then (m, change (some node)) :: rest
      else (m, node) :: modifyEntry rest n change

/-- Puts a node at the end of a chain of names and makes the directories on the way. A file on
the way gives place to a directory. -/
def put : List FileName → Node → Option Node → Node
  | [], node, _ => node
  | n :: rest, node, some (.dir entries) => .dir (modifyEntry entries n (put rest node))
  | n :: rest, node, _ => .dir [(n, put rest node none)]

/-- Makes a directory at the end of a chain of names, unless there is one. -/
def makeDir : List FileName → Option Node → Node
  | [], some (.dir entries) => .dir entries
  | [], _ => .dir []
  | n :: rest, some (.dir entries) => .dir (modifyEntry entries n (makeDir rest))
  | n :: rest, _ => .dir [(n, makeDir rest none)]

/-- Removes the node at the end of a chain of names. -/
def remove : List FileName → Node → Node
  | [], node => node
  | _, .file text => .file text
  | [n], .dir entries => .dir (entries.filter fun e => e.1 ≠ n)
  | n :: m :: rest, .dir entries =>
      .dir (entries.map fun e => if e.1 = n then (e.1, remove (m :: rest) e.2) else e)

mutual

/-- The files at and below a node, each with the names that lead to it. -/
def files : Node → List (List FileName × Option String)
  | .file text => [([], text)]
  | .dir entries => entryFiles entries

/-- The files of a directory's entries. -/
def entryFiles : List (FileName × Node) → List (List FileName × Option String)
  | [] => []
  | (n, node) :: rest =>
      (files node).map (fun f => (n :: f.1, f.2)) ++ entryFiles rest

end

end Node

/-- A tree of files, and the directory in which relative paths start. -/
structure Disk where
  root : Node
  cwd : List FileName := []
  deriving Inhabited

namespace Disk

/-- The disk that holds nothing but the directory in which relative paths start. -/
def blank (cwd : List FileName) : Disk := ⟨Node.makeDir cwd none, cwd⟩

/-- The path of the directory in which relative paths start. -/
def cwdPath (d : Disk) : Path := Path.ofNames true d.cwd

/-- The file or directory that a path names. -/
def find? (d : Disk) (p : Path) : Option Node :=
  if p.octets = [] then none
  else if p.isAbsolute then Node.follow p.pieces [] d.root
  else Node.follow (d.cwd ++ p.pieces) [] d.root

def has (d : Disk) (p : Path) : Bool := (d.find? p).isSome

/-- The text of the file that a path names. A directory and a file that holds no valid UTF-8
have none. -/
def readText? (d : Disk) (p : Path) : Option String :=
  match d.find? p with
  | some (.file text) => text
  | _ => none

/-- The names that lead from the root to where a path points by its text. -/
def chain (d : Disk) (p : Path) : List FileName :=
  Path.names (Path.resolvedSteps (d.cwdPath.join p).components)

def writeFile (d : Disk) (p : Path) (content : Node) : Disk :=
  { d with root := Node.put (d.chain p) content (some d.root) }

def makeDir (d : Disk) (p : Path) : Disk :=
  { d with root := Node.makeDir (d.chain p) (some d.root) }

def removeFile (d : Disk) (p : Path) : Disk :=
  { d with root := Node.remove (d.chain p) d.root }

/-- The number of files. -/
def fileCount (d : Disk) : Nat := d.root.files.length

/-- The paths of the files at and below a path. -/
def filesBelow (d : Disk) (p : Path) : List Path :=
  match d.find? p with
  | none => []
  | some node => (Node.files node).map fun f => f.1.foldl (fun q n => q.join ⟨n⟩) p

end Disk

end PawnScope
