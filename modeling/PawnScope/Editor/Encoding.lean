import PawnScope.Editor
import PawnScope.Json

/-! # Answers as JSON

The answers to an editor in the form of the language server protocol. What is absent is left
out. -/

namespace PawnScope.Editor

/-- The name by which the tool signs its messages. -/
def toolName : String := "sourcepawn-index"

/-- The protocol's number for a kind of completion. -/
def kindNumber : SymbolKind → Nat
  | .method => 2
  | .function => 3
  | .variable => 6
  | .methodmap => 7
  | .typedef => 8
  | .property => 10
  | .enum => 13
  | .enumMember => 20
  | .constant => 21

def markup (text : String) : Json := .obj [("kind", .str "markdown"), ("value", .str text)]

def Completion.toJson (c : Completion) : Json :=
  .ofFields
    [("label", some (.str c.label)), ("kind", some (.nat (kindNumber c.kind))),
     ("detail", some (.str c.detail)), ("documentation", c.documentation.map markup)]

def completionJson (items : List Completion) : Json := .arr (items.map Completion.toJson)

def hoverJson (text : String) : Json := .obj [("contents", markup text)]

/-- Signature help offers one signature, which is the active one. -/
def SignatureHelp.toJson (h : SignatureHelp) : Json :=
  let parameters := h.parameters.map fun labels =>
    Json.arr (labels.map fun label => .obj [("label", .str label)])
  let signature := Json.ofFields
    [("label", some (.str h.label)), ("documentation", h.documentation.map markup),
     ("parameters", parameters), ("activeParameter", some (.nat h.activeParameter))]
  .obj [("signatures", .arr [signature]), ("activeSignature", .nat 0),
        ("activeParameter", .nat h.activeParameter)]

def positionJson (p : Position) : Json :=
  .obj [("line", .nat p.line), ("character", .nat p.character)]

def rangeJson (r : TextRange) : Json :=
  .obj [("start", positionJson r.start), ("end", positionJson r.stop)]

/-- A warning has severity 2. -/
def Diagnostic.toJson (d : Diagnostic) : Json :=
  .obj [("range", rangeJson d.range), ("severity", .nat 2), ("source", .str toolName),
        ("message", .str d.message)]

end PawnScope.Editor
