import PawnScope.Session.Capabilities

/-! # Shapes of the parameters of methods

The protocol has methods that this server serves and methods that it only knows. The parameters of
both are read, since parameters that cannot be read are reported first. -/

namespace PawnScope.Session.Shape

/-! ## Methods that are served -/

def initialization : Shape :=
  .record "InitializeParams"
    [optional "processId" unsigned,
     optional "rootPath" text,
     omissible (optional "rootUri" location),
     optional "initializationOptions" anything,
     required "capabilities" clientCapabilities,
     omissible (optional "trace" (.word ["off", "messages", "verbose"])),
     optional "workspaceFolders"
       (.list (.record "WorkspaceFolder" [required "uri" location, required "name" text])),
     optional "clientInfo"
       (.record "ClientInfo" [required "name" text, optional "version" text]),
     optional "locale" text]

/-- The parameters of a message that tells nothing. -/
def initialized : Shape := .record "InitializedParams" []

def didOpen : Shape :=
  .record "DidOpenTextDocumentParams"
    [required "textDocument"
      (.record "TextDocumentItem"
        [required "uri" location, required "languageId" text, required "version" signed,
         required "text" text])]

def didChange : Shape :=
  .record "DidChangeTextDocumentParams"
    [required "textDocument"
       (.record "VersionedTextDocumentIdentifier"
         [required "uri" location, required "version" signed]),
     required "contentChanges"
       (.list (.record "TextDocumentContentChangeEvent"
         [optional "range" range, optional "rangeLength" unsigned, required "text" text]))]

def didClose : Shape := .record "DidCloseTextDocumentParams" documentFields

def didChangeConfiguration : Shape :=
  .record "DidChangeConfigurationParams" [required "settings" anything]

def completion : Shape :=
  parameters "CompletionParams"
    (placeFields ++ resultTokens ++
      [optional "context"
        (.record "CompletionContext"
          [required "triggerKind" signed, optional "triggerCharacter" text])])

def hover : Shape := parameters "HoverParams" (placeFields ++ workToken)

def signatureHelpRequest : Shape :=
  parameters "SignatureHelpParams"
    (placeFields ++ workToken ++
      [optional "context"
        (.record "SignatureHelpContext"
          [required "triggerKind" signed, optional "triggerCharacter" text,
           required "isRetrigger" boolean, optional "activeSignatureHelp" signatureHelp])])

/-! ## Values of methods that are not served -/

/-- A callable in a tree of callers. -/
def callItem : Shape :=
  .record "CallHierarchyItem"
    [required "name" text, required "kind" signed, optional "tags" (.list signed),
     optional "detail" text, required "uri" location, required "range" range,
     required "selectionRange" range, optional "data" anything]

/-- A type in a tree of types. -/
def typeItem : Shape :=
  .record "TypeHierarchyItem"
    [required "name" text, required "kind" signed, optional "tags" signed,
     optional "detail" text, required "uri" location, required "range" range,
     required "selectionRange" range, optional "data" anything]

def inlayHint : Shape :=
  let part : Shape :=
    .record "InlayHintLabelPart"
      [required "value" text, optional "tooltip" (prose "InlayHintLabelPartTooltip"),
       optional "location" place, optional "command" command]
  .record "InlayHint"
    [required "position" position,
     required "label" (.either "InlayHintLabel" [text, .list part]),
     optional "kind" signed,
     optional "textEdits" (.list textEdit),
     optional "tooltip" (prose "InlayHintTooltip"),
     optional "paddingLeft" boolean,
     optional "paddingRight" boolean,
     optional "data" anything]

def completionItem : Shape :=
  let replacement : Shape :=
    .record "InsertReplaceEdit"
      [required "newText" text, required "insert" range, required "replace" range]
  .record "CompletionItem"
    [required "label" text,
     optional "labelDetails"
       (.record "CompletionItemLabelDetails" [optional "detail" text, optional "description" text]),
     optional "kind" signed,
     optional "detail" text,
     optional "documentation" documentation,
     optional "deprecated" boolean,
     optional "preselect" boolean,
     optional "sortText" text,
     optional "filterText" text,
     optional "insertText" text,
     optional "insertTextFormat" signed,
     optional "insertTextMode" signed,
     optional "textEdit" (.either "CompletionTextEdit" [textEdit, replacement]),
     optional "additionalTextEdits" (.list textEdit),
     optional "command" command,
     optional "commitCharacters" (.list text),
     optional "data" anything,
     optional "tags" (.list signed)]

def codeAction : Shape :=
  .record "CodeAction"
    [required "title" text,
     optional "kind" text,
     optional "diagnostics" (.list diagnostic),
     optional "edit" workspaceEdit,
     optional "command" command,
     optional "isPreferred" boolean,
     optional "disabled" (.record "CodeActionDisabled" [required "reason" text]),
     optional "data" anything]

def codeActionContext : Shape :=
  .record "CodeActionContext"
    [required "diagnostics" (.list diagnostic), optional "only" (.list text),
     optional "triggerKind" signed]

/-- Other options than the known ones are flags, numbers or texts. -/
def formattingOptions : Shape :=
  .object "FormattingOptions"
    ([required "tabSize" unsigned, required "insertSpaces" boolean] ++
      flags ["trimTrailingWhitespace", "insertFinalNewline", "trimFinalNewlines"])
    (.either "FormattingProperty" [boolean, signed, text])

def workspaceSymbol : Shape :=
  .record "WorkspaceSymbol"
    [required "name" text, required "kind" signed, optional "tags" (.list signed),
     optional "containerName" text,
     required "location"
       (.either "OneOf" [place, .record "WorkspaceLocation" [required "uri" location]]),
     optional "data" anything]

/-- A list of files, each of which has some names. -/
def files (name item : String) (names : List String) : Shape :=
  .record name [required "files" (.list (.record item (names.map (required · text))))]

end PawnScope.Session.Shape

namespace PawnScope.Session

/-! ## Methods that are not served -/

open Shape in
/-- The requests of the protocol that are not served, and the shapes of their parameters. -/
def unservedRequests : List (String × Shape) :=
  let goto := parameters "GotoDefinitionParams" (placeFields ++ resultTokens)
  let ofDocument := fun name => parameters name (documentFields ++ resultTokens)
  let atPlace := fun name others => parameters name (placeFields ++ workToken ++ others)
  [("textDocument/declaration", goto),
   ("textDocument/definition", goto),
   ("textDocument/typeDefinition", goto),
   ("textDocument/implementation", goto),
   ("textDocument/references",
     parameters "ReferenceParams"
       (placeFields ++ resultTokens ++
         [required "context"
           (.record "ReferenceContext" [required "includeDeclaration" boolean])])),
   ("textDocument/documentHighlight",
     parameters "DocumentHighlightParams" (placeFields ++ resultTokens)),
   ("textDocument/prepareCallHierarchy", atPlace "CallHierarchyPrepareParams" []),
   ("callHierarchy/incomingCalls",
     parameters "CallHierarchyIncomingCallsParams" (required "item" callItem :: resultTokens)),
   ("callHierarchy/outgoingCalls",
     parameters "CallHierarchyOutgoingCallsParams" (required "item" callItem :: resultTokens)),
   ("textDocument/prepareTypeHierarchy", atPlace "TypeHierarchyPrepareParams" []),
   ("typeHierarchy/supertypes",
     parameters "TypeHierarchySupertypesParams" (required "item" typeItem :: resultTokens)),
   ("typeHierarchy/subtypes",
     parameters "TypeHierarchySubtypesParams" (required "item" typeItem :: resultTokens)),
   ("textDocument/documentLink", ofDocument "DocumentLinkParams"),
   ("documentLink/resolve",
     .record "DocumentLink"
       [required "range" range, optional "target" location, optional "tooltip" text,
        optional "data" anything]),
   ("textDocument/codeLens", ofDocument "CodeLensParams"),
   ("codeLens/resolve",
     .record "CodeLens"
       [required "range" range, optional "command" command, optional "data" anything]),
   ("textDocument/foldingRange", ofDocument "FoldingRangeParams"),
   ("textDocument/selectionRange",
     parameters "SelectionRangeParams"
       (documentFields ++ required "positions" (.list position) :: resultTokens)),
   ("textDocument/documentSymbol", ofDocument "DocumentSymbolParams"),
   ("textDocument/semanticTokens/full", ofDocument "SemanticTokensParams"),
   ("textDocument/semanticTokens/full/delta",
     parameters "SemanticTokensDeltaParams"
       (documentFields ++ required "previousResultId" text :: resultTokens)),
   ("textDocument/semanticTokens/range",
     parameters "SemanticTokensRangeParams"
       (documentFields ++ required "range" range :: resultTokens)),
   ("textDocument/inlineValue",
     parameters "InlineValueParams"
       (documentFields ++ workToken ++
         [required "range" range,
          required "context"
            (.record "InlineValueContext"
              [required "frameId" signed, required "stoppedLocation" range])])),
   ("textDocument/inlayHint",
     parameters "InlayHintParams" (documentFields ++ required "range" range :: workToken)),
   ("inlayHint/resolve", inlayHint),
   ("textDocument/moniker", parameters "MonikerParams" (placeFields ++ resultTokens)),
   ("completionItem/resolve", completionItem),
   ("textDocument/diagnostic",
     parameters "DocumentDiagnosticParams"
       (documentFields ++ optional "identifier" text :: optional "previousResultId" text ::
         resultTokens)),
   ("workspace/diagnostic",
     parameters "WorkspaceDiagnosticParams"
       (optional "identifier" text ::
         required "previousResultIds"
           (.list (.record "PreviousResultId" [required "uri" location, required "value" text])) ::
         resultTokens)),
   ("textDocument/codeAction",
     parameters "CodeActionParams"
       (documentFields ++ required "range" range :: required "context" codeActionContext ::
         resultTokens)),
   ("codeAction/resolve", codeAction),
   ("textDocument/documentColor", ofDocument "DocumentColorParams"),
   ("textDocument/colorPresentation",
     parameters "ColorPresentationParams"
       (documentFields ++ required "range" range ::
         required "color"
           (.record "Color" (["red", "green", "blue", "alpha"].map (required · number))) ::
         resultTokens)),
   ("textDocument/formatting",
     parameters "DocumentFormattingParams"
       (documentFields ++ required "options" formattingOptions :: workToken)),
   ("textDocument/rangeFormatting",
     parameters "DocumentRangeFormattingParams"
       (documentFields ++ required "range" range :: required "options" formattingOptions ::
         workToken)),
   ("textDocument/onTypeFormatting",
     parameters "DocumentOnTypeFormattingParams"
       (placeFields ++ [required "ch" text, required "options" formattingOptions])),
   ("textDocument/rename", atPlace "RenameParams" [required "newName" text]),
   ("textDocument/prepareRename", .record "TextDocumentPositionParams" placeFields),
   ("textDocument/linkedEditingRange", atPlace "LinkedEditingRangeParams" []),
   ("textDocument/willSaveWaitUntil",
     .record "WillSaveTextDocumentParams" (documentFields ++ [required "reason" signed])),
   ("workspace/symbol",
     parameters "WorkspaceSymbolParams" (required "query" text :: resultTokens)),
   ("workspaceSymbol/resolve", workspaceSymbol),
   ("workspace/willCreateFiles", files "CreateFilesParams" "FileCreate" ["uri"]),
   ("workspace/willRenameFiles", files "RenameFilesParams" "FileRename" ["oldUri", "newUri"]),
   ("workspace/willDeleteFiles", files "DeleteFilesParams" "FileDelete" ["uri"]),
   ("workspace/executeCommand",
     parameters "ExecuteCommandParams"
       (required "command" text :: omissible (required "arguments" (.list anything)) ::
         workToken))]

/-- The notifications of the protocol that are received and ignored. -/
def ignoredNotifications : List String :=
  ["textDocument/willSave", "textDocument/didSave", "workspace/didChangeWorkspaceFolders",
   "workspace/didCreateFiles", "workspace/didRenameFiles", "workspace/didDeleteFiles",
   "workspace/didChangeWatchedFiles"]

end PawnScope.Session
