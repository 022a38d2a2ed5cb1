import PawnScope.Editor.Encoding
import PawnScope.Json.Reader

/-! # Messages

Requests, responses and notifications of JSON-RPC. A request without an identifier is a
notification and gets no response; null is an identifier. -/

namespace PawnScope.Session

/-- A request or notification. -/
structure Request where
  method : String
  params : Option Json := none
  id : Option Json := none
  deriving Inhabited

/-- Identifiers are whole numbers of 64 bits with a sign, strings, and null. -/
def isId : Json → Bool
  | .null => true
  | .int n => -0x8000000000000000 ≤ n && n < 0x8000000000000000
  | .str _ => true
  | _ => false

def isVersion : Json → Bool
  | .str s => s = "2.0"
  | _ => false

/-- The value under a key, if there is one. A key that is repeated makes the object unusable. -/
def single? (fields : List (String × Json)) (key : String) : Option (Option Json) :=
  match fields.filter (·.1 = key) with
  | [] => some none
  | [(_, v)] => some (some v.settled)
  | _ => none

/-- Puts a message of version 2.0 together from its parts. The method is empty if it is missing. -/
def Request.ofParts? (version method params id : Option Json) : Option Request :=
  if version.any isVersion && id.all isId then
    match method with
    | none => some { method := "", params, id }
    | some (.str method) => some { method, params, id }
    | some _ => none
  else none

/-- Reads a message: an object, or a list of its parts, of which the last may be left out. -/
def Request.ofJson? : Json → Option Request
  | .obj fields => do
      let part? := single? fields
      Request.ofParts? (← part? "jsonrpc") (← part? "method") (← part? "params") (← part? "id")
  | .arr items =>
      let part? := fun i : Nat => items[i]?.map Json.settled
      if items.length ≤ 4 then Request.ofParts? (part? 0) (part? 1) (part? 2) (part? 3) else none
  | _ => none

/-! ## Answers of the editor -/

/-- A code of 64 bits, with a sign. -/
def isCode : Json → Bool
  | .int n => -0x8000000000000000 ≤ n && n < 0x8000000000000000
  | _ => false

def isString : Json → Bool
  | .str _ => true
  | _ => false

/-- An error has a code and a message, and may have data, but nothing else. -/
def isError : Json → Bool
  | .obj fields =>
      fields.all (fun f => ["code", "message", "data"].contains f.1) &&
        ((single? fields "code").any (·.any isCode)) &&
        ((single? fields "message").any (·.any isString)) &&
        (single? fields "data").isSome
  | .arr [code, message, _] => isCode code && isString message
  | _ => false

/-- A response of the editor, which asks for nothing. -/
def isResponse : Json → Bool
  | .obj fields =>
      ((single? fields "jsonrpc").any (·.any isVersion)) &&
        ((single? fields "id").any (·.any isId)) &&
        (((single? fields "result").any (·.isSome)) || (fields.filter (·.1 = "error")).length = 1 &&
          fields.any fun f => f.1 = "error" && isError f.2)
  | _ => false

/-- An error of the protocol or of a query. -/
inductive Fault where
  | parse
  | invalidRequest
  | notInitialized
  | unknownMethod (method : String)
  /-- A method of the protocol that is not served. -/
  | unservedMethod
  | invalidParams (reason : String)
  | query (error : QueryError)
  deriving DecidableEq, Repr

def Fault.code : Fault → Int
  | parse => -32700
  | invalidRequest => -32600
  | unknownMethod _ => -32601
  | unservedMethod => -32601
  | invalidParams _ => -32602
  | notInitialized => -32002
  | query _ => -32001

def Fault.message : Fault → String
  | parse => "Parse error"
  | invalidRequest => "Invalid request"
  | notInitialized => "Server not initialized"
  | unknownMethod _ => "Method not found"
  | unservedMethod => "Method not found"
  | invalidParams reason => reason
  | query error => error.message

/-- A method that the protocol does not know is named in the error. -/
def Fault.data? : Fault → Option Json
  | unknownMethod method => some (.str method)
  | _ => none

def Fault.toJson (f : Fault) : Json :=
  .ofFields [("code", some (.int f.code)), ("message", some (.str f.message)), ("data", f.data?)]

/-- The answer to a request. -/
structure Response where
  id : Json
  outcome : Except Fault Json
  deriving Inhabited

def Response.toJson (r : Response) : Json :=
  let outcome :=
    match r.outcome with
    | .ok result => ("result", result)
    | .error fault => ("error", fault.toJson)
  .obj [("jsonrpc", .str "2.0"), outcome, ("id", r.id)]

/-- What the server tells the editor unasked. -/
inductive Notice where
  | diagnostics (location : Location) (items : List Editor.Diagnostic) (version : Option Int)
  | error (text : String)
  deriving Inhabited

def Notice.method : Notice → String
  | diagnostics .. => "textDocument/publishDiagnostics"
  | error _ => "window/showMessage"

/-- An error message has type 1. -/
def Notice.params : Notice → Json
  | diagnostics l items version =>
      .ofFields
        [("uri", some (.str l.text)),
         ("diagnostics", some (.arr (items.map Editor.Diagnostic.toJson))),
         ("version", version.map .int)]
  | error text => .obj [("type", .nat 1), ("message", .str text)]

def Notice.toJson (n : Notice) : Json :=
  .obj [("jsonrpc", .str "2.0"), ("method", .str n.method), ("params", n.params)]

end PawnScope.Session
