import PawnScope.Session.Shape

/-! # Shapes of common values

The values that the parameters of several methods share: positions and ranges, edits, commands and
diagnostics. -/

namespace PawnScope.Session.Shape

/-- A whole number of 32 bits. -/
def unsigned : Shape := .integer ⟨"u32", 0, 0xFFFFFFFF⟩

/-- A whole number of 32 bits, one of which is the sign. -/
def signed : Shape := .integer ⟨"i32", -0x80000000, 0x7FFFFFFF⟩

/-! ## Places -/

def position : Shape :=
  .record "Position" [required "line" unsigned, required "character" unsigned]

def range : Shape := .record "Range" [required "start" position, required "end" position]

def place : Shape := .record "Location" [required "uri" location, required "range" range]

/-- A document that is named by its location only. -/
def document : Shape := .record "TextDocumentIdentifier" [required "uri" location]

/-! ## Texts -/

def markupKind : Shape := .word ["plaintext", "markdown"]

def markup : Shape :=
  .record "MarkupContent" [required "kind" markupKind, required "value" text]

/-- Plain text or markup. -/
def prose (name : String) : Shape := .either name [text, markup]

def documentation : Shape := prose "Documentation"

def numberOrText : Shape := .either "NumberOrString" [signed, text]

/-! ## Edits and commands -/

def command : Shape :=
  .record "Command"
    [required "title" text, required "command" text, optional "arguments" (.list anything)]

def textEdit : Shape := .record "TextEdit" [required "range" range, required "newText" text]

def documentEdit : Shape :=
  .record "TextDocumentEdit"
    [required "textDocument" (.record "OptionalVersionedTextDocumentIdentifier"
       [required "uri" location, optional "version" signed]),
     required "edits" (.list textEdit)]

/-- What is done with a file as a whole. -/
def fileOperation : Shape :=
  let options := fun name names => optional "options" (.record name (flags names))
  .tagged "kind"
    [("create",
       .record "CreateFile"
         [required "uri" location,
          options "CreateFileOptions" ["overwrite", "ignoreIfExists"],
          optional "annotationId" text]),
     ("rename",
       .record "RenameFile"
         [required "oldUri" location, required "newUri" location,
          options "RenameFileOptions" ["overwrite", "ignoreIfExists"],
          optional "annotationId" text]),
     ("delete",
       .record "DeleteFile"
         [required "uri" location,
          optional "options" (.record "DeleteFileOptions"
            (flags ["recursive", "ignoreIfNotExists"] ++ [optional "annotationId" text]))])]

def workspaceEdit : Shape :=
  .record "WorkspaceEdit"
    [omissible (optional "changes" (.table true (.list textEdit))),
     optional "documentChanges"
       (.either "DocumentChanges"
         [.list documentEdit,
          .list (.either "DocumentChangeOperation" [fileOperation, documentEdit])]),
     optional "changeAnnotations"
       (.table false (.record "ChangeAnnotation"
         [required "label" text, optional "needsConfirmation" boolean,
          optional "description" text]))]

/-! ## Diagnostics -/

def diagnostic : Shape :=
  .record "Diagnostic"
    [required "range" range,
     optional "severity" signed,
     optional "code" numberOrText,
     optional "codeDescription" (.record "CodeDescription" [required "href" location]),
     optional "source" text,
     required "message" text,
     optional "relatedInformation"
       (.list (.record "DiagnosticRelatedInformation"
         [required "location" place, required "message" text])),
     optional "tags" (.list signed),
     optional "data" anything]

/-! ## Signatures -/

def signatureHelp : Shape :=
  let parameter : Shape :=
    .record "ParameterInformation"
      [required "label" (.either "ParameterLabel" [text, .pair unsigned]),
       optional "documentation" documentation]
  let signature : Shape :=
    .record "SignatureInformation"
      [required "label" text, optional "documentation" documentation,
       optional "parameters" (.list parameter), optional "activeParameter" unsigned]
  .record "SignatureHelp"
    [required "signatures" (.list signature), optional "activeSignature" unsigned,
     optional "activeParameter" unsigned]

/-! ## Parts that parameters share -/

/-- The token by which progress is reported. -/
def workToken : List Field := [optional "workDoneToken" numberOrText]

/-- The tokens by which progress and partial results are reported. -/
def resultTokens : List Field :=
  workToken ++ [optional "partialResultToken" numberOrText]

/-- A document and a position in it. -/
def placeFields : List Field :=
  [required "textDocument" document, required "position" position]

def documentFields : List Field := [required "textDocument" document]

/-- Parameters that are given as an object, with fields that do not matter among them. -/
def parameters (name : String) (fields : List Field) : Shape :=
  .object name fields .anything

end PawnScope.Session.Shape
