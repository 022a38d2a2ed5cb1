import PawnScope.CommandLine
import PawnScope.Session.Lookup

/-! # The program

Reads the disk and the standard input for the rest of the library, and writes what it answers. -/

namespace PawnScope.Program

/-- Reads a file, or a directory without its entries, into a disk that already has the directories
around it. -/
def readNode (disk : Disk) (p : Path) : IO Disk := do
  let file := System.mkFilePath [p.display]
  if ← file.isDir then return disk.makeDir p
  if ← file.pathExists then
    try return disk.writeFile p (.ofBytes (← IO.FS.readBinFile file))
    catch _ => return disk.writeFile p (.file none)
  return disk

/-- The paths that a path goes through, shortest first, and the path itself. -/
def stages (p : Path) : List Path :=
  (List.range p.octets.length).filterMap (fun i =>
    if p.octets[i]? = some Path.slash ∧ 0 < i then some ⟨p.octets.take i⟩ else none) ++ [p]

/-- Reads what a path names, with the directories on the way. -/
def readPath (disk : Disk) (p : Path) : IO Disk := (stages p).foldlM readNode disk

/-- Reads a folder and everything below it. -/
partial def readFolder (disk : Disk) (p : Path) : IO Disk := do
  let mut disk ← readPath disk p
  let folder := System.mkFilePath [p.display]
  if ← folder.isDir then
    for entry in ← folder.readDir do
      disk ← readFolder disk (p.join (Path.ofString entry.fileName))
  return disk

def readLookup (disk : Disk) : Session.Lookup → IO Disk
  | .path p => readPath disk p
  | .folder p => readFolder disk p

/-- The disk of which nothing has been read. -/
def unreadDisk : IO Disk := do
  let cwd := Path.ofString (← IO.currentDir).toString
  return Disk.blank (Path.names cwd.components)

/-- The lookups of a step from `f` to `g`. -/
def feedLookups (f g : Frame.Feed) (disk : Disk) : List Session.Lookup :=
  match Frame.next f.waiting with
  | .body octets _ =>
      match Frame.request? octets with
      | .ok (some r) => f.session.lookups r g.session.workspace disk
      | _ => []
  | _ => []

/-- Handles the first message that waits, on a disk that holds all that the message looks at. -/
partial def handleNext (f : Frame.Feed) (seen : List Session.Lookup) (disk : Disk) :
    IO (Option (Frame.Feed × List String)) := do
  match f.step? disk with
  | none => return none
  | some (g, out) =>
      let fresh := ((feedLookups f g disk).filter (· ∉ seen)).eraseDups
      if fresh.isEmpty then return some (g, out)
      else handleNext f (seen ++ fresh) (← fresh.foldlM readLookup disk)

/-- Handles all messages that wait and writes the answers. -/
partial def drain (f : Frame.Feed) (output : IO.FS.Stream) : IO Frame.Feed := do
  match ← handleNext f [] (← unreadDisk) with
  | none => return f
  | some (g, out) =>
      for text in out do output.putStr text
      output.flush
      drain g output

/-- Serves an editor until the input ends or the session does. -/
partial def serve (f : Frame.Feed) (input output : IO.FS.Stream) : IO Unit := do
  let bytes ← input.read 65536
  if bytes.isEmpty then
    for text in f.finish do output.putStr text
    output.flush
  else
    let f ← drain { f with waiting := f.waiting ++ bytes.toList } output
    if f.closed then return () else serve f input output

end PawnScope.Program

def main (arguments : List String) : IO UInt32 := do
  match (PawnScope.CommandLine.parse arguments).outcome? with
  | some outcome =>
      IO.print outcome.stdout
      IO.eprint outcome.stderr
      return outcome.code.toUInt32
  | none =>
      PawnScope.Program.serve {} (← IO.getStdin) (← IO.getStdout)
      return 0
