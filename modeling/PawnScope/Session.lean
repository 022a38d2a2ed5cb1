import PawnScope.Session.Message
import PawnScope.Session.Params
import PawnScope.Workspace.Scan

/-! # Sessions

A session serves one editor, message by message. It starts with `initialize`, ends with `shutdown`
and `exit`, and in between keeps a workspace up to date and answers questions about it. -/

namespace PawnScope

/-- How far a session has come. -/
inductive Stage where
  | uninitialized
  | running
  | shutDown
  | exited
  deriving DecidableEq, Repr, Inhabited

/-- The stage of a session and the workspace that it serves. -/
structure Session where
  stage : Stage := .uninitialized
  workspace : Workspace := {}
  deriving Inhabited

namespace Session

/-- The version of the server. -/
def version : String := "0.1.0"

/-- What a message leads to. -/
structure Step where
  session : Session
  response : Option Response := none
  notices : List Notice := []

/-! ## Answers -/

/-- The answer to a request, if the message is one. -/
def respond (r : Request) (outcome : Except Fault Json) : Option Response :=
  r.id.map fun id => ⟨id, outcome⟩

/-- A message that changes nothing. -/
def answer (s : Session) (r : Request) (outcome : Except Fault Json) : Step :=
  { session := s, response := respond r outcome }

/-- A message that finds the session in the wrong stage. -/
def refuse (s : Session) (r : Request) : Step :=
  s.answer r (.error (if s.stage = .uninitialized then .notInitialized else .invalidRequest))

/-- What a message takes from its parameters, which are read by their shape first. -/
def paramsOf {α : Type} (r : Request) (shape : Shape) (take? : Json → Option α) :
    Except Fault α :=
  match r.params with
  | none => .error (.invalidParams "Missing params field")
  | some j =>
      match shape.read j with
      | .error reason => .error (.invalidParams reason)
      | .ok v =>
          match take? v with
          | some a => .ok a
          | none => .error (.invalidParams "Unusable params")

/-! ## The start and the end -/

def strings (texts : List String) : Json := .arr (texts.map .str)

/-- What the server can do. Documents are sent whole after each change. -/
def capabilities : Json :=
  .obj
    [("textDocumentSync", .nat 1),
     ("hoverProvider", .bool true),
     ("completionProvider", .obj [("triggerCharacters", strings ["."])]),
     ("signatureHelpProvider", .obj [("triggerCharacters", strings ["(", ","])])]

def initializeResult : Json :=
  .obj
    [("capabilities", capabilities),
     ("serverInfo", .obj [("name", .str Editor.toolName), ("version", .str version)])]

/-- Takes in the folders and the settings with which an editor starts. The root counts only if
folders are absent. -/
def startWorkspace (w : Workspace) (disk : Disk) (p : StartParams) : Workspace :=
  let w := (p.folders.getD p.rootUri.toList).foldl Workspace.addFolder w
  match p.options with
  | none => w
  | some options => (w.applySettings? disk (Settings.wrap options)).getD w

def start (s : Session) (disk : Disk) (r : Request) : Step :=
  if s.stage ≠ .uninitialized then s.answer r (.error .invalidRequest)
  else if r.id.isNone then { session := s }
  else
    match paramsOf r .initialization start? with
    | .error fault => s.answer r (.error fault)
    | .ok p =>
        { s with
          stage := .running
          workspace := startWorkspace s.workspace disk p }.answer r (.ok initializeResult)

def shutdown (s : Session) (r : Request) : Step :=
  if s.stage ≠ .running then s.refuse r
  else
    { s with stage := .shutDown }.answer r
      (match r.params with
        | none => .ok .null
        | some _ => .error (.invalidParams "Unexpected params"))

def exit (s : Session) : Step := { session := { s with stage := .exited } }

/-! ## Notifications -/

/-- The diagnostics of an open document. -/
def publish (w : Workspace) (l : Location) : List Notice :=
  match w.buffers.get? l with
  | none => []
  | some b => [.diagnostics l (Editor.diagnostics w l) b.version]

/-- The diagnostics of all open documents. -/
def publishAll (w : Workspace) : List Notice := w.buffers.keys.flatMap (publish w)

/-- Serves a notification: changes the workspace and tells the editor about it. A notification is
not a request. -/
def serveNotification {α : Type} (s : Session) (r : Request) (shape : Shape)
    (take? : Json → Option α) (serve : α → Workspace → Workspace × List Notice) : Step :=
  if s.stage ≠ .running then s.refuse r
  else if r.id.isSome then s.answer r (.error .invalidRequest)
  else
    match paramsOf r shape take? with
    | .error _ => { session := s }
    | .ok a =>
        let (w, notices) := serve a s.workspace
        { session := { s with workspace := w }, notices := notices }

def initialized (disk : Disk) (_ : Unit) (w : Workspace) : Workspace × List Notice :=
  let w := w.applyScan disk (w.scanFolders disk)
  (w, publishAll w)

def didOpen (disk : Disk) (p : OpenParams) (w : Workspace) : Workspace × List Notice :=
  let w := w.openDocument disk p.location p.text (some p.version)
  (w, publish w p.location)

def didChange (disk : Disk) (p : ChangeParams) (w : Workspace) : Workspace × List Notice :=
  let w := w.changeDocument disk p.location p.changes (some p.version)
  (w, publish w p.location)

/-- A closed document has no diagnostics any more. -/
def didClose (disk : Disk) (l : Location) (w : Workspace) : Workspace × List Notice :=
  (w.closeDocument disk l, [.diagnostics l [] none])

/-- Settings that are not usable change nothing. -/
def didChangeConfiguration (disk : Disk) (settings : Json) (w : Workspace) :
    Workspace × List Notice :=
  match w.applySettings? disk settings with
  | none => (w, [])
  | some w => (w, publishAll w)

/-! ## Requests -/

/-- Serves a request that asks about the workspace. An error is shown to the user too. -/
def serveRequest (s : Session) (r : Request) (shape : Shape)
    (serve : Location × Position → Workspace → Except QueryError Json) : Step :=
  if s.stage ≠ .running then s.refuse r
  else if r.id.isNone then { session := s }
  else
    match paramsOf r shape place? with
    | .error fault => s.answer r (.error fault)
    | .ok a =>
        match serve a s.workspace with
        | .ok result => s.answer r (.ok result)
        | .error e => { s.answer r (.error (.query e)) with notices := [.error e.message] }

def completion (disk : Disk) (p : Location × Position) (w : Workspace) :
    Except QueryError Json := do
  return Json.ofOption Editor.completionJson (← Editor.completion w disk p.1 p.2)

def hover (disk : Disk) (p : Location × Position) (w : Workspace) : Except QueryError Json := do
  return Json.ofOption Editor.hoverJson (← Editor.hover w disk p.1 p.2)

def signatureHelp (disk : Disk) (p : Location × Position) (w : Workspace) :
    Except QueryError Json := do
  return Json.ofOption Editor.SignatureHelp.toJson (← Editor.signatureHelp w disk p.1 p.2)

/-- A request of the protocol that is not served. -/
def unserved (s : Session) (r : Request) (shape : Shape) : Step :=
  if s.stage ≠ .running then s.refuse r
  else
    match paramsOf r shape nothing? with
    | .error fault => s.answer r (.error fault)
    | .ok _ => s.answer r (.error .unservedMethod)

/-- A notification of the protocol that is ignored. -/
def ignored (s : Session) (r : Request) : Step :=
  s.serveNotification r .anything nothing? fun _ w => (w, [])

/-- A notice that a request is not waited for any more. Each request is handled to its end before
the next message, so there is nothing left to do; sent as a request it is refused in every stage. -/
def cancel (s : Session) (r : Request) : Step := s.answer r (.error .invalidRequest)

/-- A message whose method the protocol does not know. Methods that start with a dollar sign are
optional and get no answer. -/
def unknown (s : Session) (r : Request) : Step :=
  if ['$', '/'].isPrefixOf r.method.toList then { session := s }
  else s.answer r (.error (.unknownMethod r.method))

/-! ## Messages -/

/-- Handles a message to its end, with the disk as it is then. After `exit` nothing is served. -/
def handle (s : Session) (disk : Disk) (r : Request) : Option Step :=
  if s.stage = .exited then none
  else
    some <|
      match r.method with
      | "initialize" => s.start disk r
      | "shutdown" => s.shutdown r
      | "exit" => s.exit
      | "initialized" => s.serveNotification r .initialized nothing? (initialized disk)
      | "textDocument/didOpen" => s.serveNotification r .didOpen open? (didOpen disk)
      | "textDocument/didChange" => s.serveNotification r .didChange changes? (didChange disk)
      | "textDocument/didClose" => s.serveNotification r .didClose close? (didClose disk)
      | "workspace/didChangeConfiguration" =>
          s.serveNotification r .didChangeConfiguration settings? (didChangeConfiguration disk)
      | "textDocument/completion" => s.serveRequest r .completion (completion disk)
      | "textDocument/hover" => s.serveRequest r .hover (hover disk)
      | "textDocument/signatureHelp" =>
          s.serveRequest r .signatureHelpRequest (signatureHelp disk)
      | "$/cancelRequest" => s.cancel r
      | method =>
          match unservedRequests.lookup method with
          | some shape => s.unserved r shape
          | none => if ignoredNotifications.contains method then s.ignored r else s.unknown r

end Session

end PawnScope
