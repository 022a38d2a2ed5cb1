import PawnScope.Session.Values

/-! # What an editor can do

An editor tells what it can do when a session starts. This server makes no use of it, but refuses
to start if it cannot be read. -/

namespace PawnScope.Session.Shape

/-! ## Parts -/

/-- A record of flags. -/
def flagRecord (name : String) (names : List String) : Shape := .record name (flags names)

/-- What can be registered while a session runs. -/
def registration : Shape :=
  flagRecord "DynamicRegistrationClientCapabilities" ["dynamicRegistration"]

def registrationFlag : Field := optional "dynamicRegistration" boolean

/-- What the editor can be asked to refresh. -/
def refresh (name : String) : Shape := flagRecord name ["refreshSupport"]

/-- The properties that can be filled in later. -/
def resolvable (name : String) : Shape := .record name [required "properties" (.list text)]

/-- The tags that are known. A flag in their place is taken too. -/
def tagSupport : Field :=
  omissible (optional "tagSupport"
    (.orFlag (.record "TagSupport" [required "valueSet" (.list signed)])))

/-- The values of a kind that are known. -/
def valueSet (name : String) (value : Shape) : Shape :=
  .record name [optional "valueSet" (.list value)]

def symbolKinds : Shape := valueSet "SymbolKindCapability" signed

/-! ## Workspace -/

def workspaceEditSupport : Shape :=
  .record "WorkspaceEditClientCapabilities"
    [optional "documentChanges" boolean,
     optional "resourceOperations" (.list (.word ["create", "rename", "delete"])),
     optional "failureHandling"
       (.word ["abort", "transactional", "textOnlyTransactional", "undo"]),
     optional "normalizesLineEndings" boolean,
     optional "changeAnnotationSupport"
       (flagRecord "ChangeAnnotationWorkspaceEditClientCapabilities" ["groupsOnLabel"])]

def workspaceSupport : Shape :=
  .record "WorkspaceClientCapabilities"
    [optional "applyEdit" boolean,
     optional "workspaceEdit" workspaceEditSupport,
     optional "didChangeConfiguration" registration,
     optional "didChangeWatchedFiles"
       (flagRecord "DidChangeWatchedFilesClientCapabilities"
         ["dynamicRegistration", "relativePatternSupport"]),
     optional "symbol"
       (.record "WorkspaceSymbolClientCapabilities"
         [registrationFlag,
          optional "symbolKind" symbolKinds,
          tagSupport,
          optional "resolveSupport" (resolvable "WorkspaceSymbolResolveSupportCapability")]),
     optional "executeCommand" registration,
     optional "workspaceFolders" boolean,
     optional "configuration" boolean,
     optional "semanticTokens" (refresh "SemanticTokensWorkspaceClientCapabilities"),
     optional "codeLens" (refresh "CodeLensWorkspaceClientCapabilities"),
     optional "fileOperations"
       (flagRecord "WorkspaceFileOperationsClientCapabilities"
         ["dynamicRegistration", "didCreate", "willCreate", "didRename", "willRename",
          "didDelete", "willDelete"]),
     optional "inlineValue" (refresh "InlineValueWorkspaceClientCapabilities"),
     optional "inlayHint" (refresh "InlayHintWorkspaceClientCapabilities"),
     optional "diagnostic" (refresh "DiagnosticWorkspaceClientCapabilities")]

/-! ## Documents -/

def completionSupport : Shape :=
  let item : Shape :=
    .record "CompletionItemCapability"
      [optional "snippetSupport" boolean,
       optional "commitCharactersSupport" boolean,
       optional "documentationFormat" (.list markupKind),
       optional "deprecatedSupport" boolean,
       optional "preselectSupport" boolean,
       tagSupport,
       optional "insertReplaceSupport" boolean,
       optional "resolveSupport" (resolvable "CompletionItemCapabilityResolveSupport"),
       optional "insertTextModeSupport"
         (.record "InsertTextModeSupport" [required "valueSet" (.list signed)]),
       optional "labelDetailsSupport" boolean]
  .record "CompletionClientCapabilities"
    [registrationFlag,
     optional "completionItem" item,
     optional "completionItemKind" (valueSet "CompletionItemKindCapability" signed),
     optional "contextSupport" boolean,
     optional "insertTextMode" signed,
     optional "completionList"
       (.record "CompletionListCapability" [optional "itemDefaults" (.list text)])]

def signatureSupport : Shape :=
  .record "SignatureHelpClientCapabilities"
    [registrationFlag,
     optional "signatureInformation"
       (.record "SignatureInformationSettings"
         [optional "documentationFormat" (.list markupKind),
          optional "parameterInformation"
            (flagRecord "ParameterInformationSettings" ["labelOffsetSupport"]),
          optional "activeParameterSupport" boolean]),
     optional "contextSupport" boolean]

def codeActionSupport : Shape :=
  .record "CodeActionClientCapabilities"
    [registrationFlag,
     optional "codeActionLiteralSupport"
       (.record "CodeActionLiteralSupport"
         [required "codeActionKind"
           (.record "CodeActionKindLiteralSupport" [required "valueSet" (.list text)])]),
     optional "isPreferredSupport" boolean,
     optional "disabledSupport" boolean,
     optional "dataSupport" boolean,
     optional "resolveSupport" (resolvable "CodeActionCapabilityResolveSupport"),
     optional "honorsChangeAnnotations" boolean]

def foldingSupport : Shape :=
  .record "FoldingRangeClientCapabilities"
    [registrationFlag,
     optional "rangeLimit" unsigned,
     optional "lineFoldingOnly" boolean,
     optional "foldingRangeKind"
       (valueSet "FoldingRangeKindCapability" (.word ["comment", "imports", "region"])),
     optional "foldingRange" (flagRecord "FoldingRangeCapability" ["collapsedText"])]

def semanticTokensSupport : Shape :=
  .record "SemanticTokensClientCapabilities"
    [registrationFlag,
     required "requests"
       (.record "SemanticTokensClientCapabilitiesRequests"
         [optional "range" boolean,
          optional "full"
            (.either "SemanticTokensFullOptions"
              [boolean, parameters "SemanticTokensFullOptions" (flags ["delta"])])]),
     required "tokenTypes" (.list text),
     required "tokenModifiers" (.list text),
     required "formats" (.list text),
     optional "overlappingTokenSupport" boolean,
     optional "multilineTokenSupport" boolean,
     optional "serverCancelSupport" boolean,
     optional "augmentsSyntaxTokens" boolean]

def documentSupport : Shape :=
  let goto := flagRecord "GotoCapability" ["dynamicRegistration", "linkSupport"]
  .record "TextDocumentClientCapabilities"
    [optional "synchronization"
       (flagRecord "TextDocumentSyncClientCapabilities"
         ["dynamicRegistration", "willSave", "willSaveWaitUntil", "didSave"]),
     optional "completion" completionSupport,
     optional "hover"
       (.record "HoverClientCapabilities"
         [registrationFlag, optional "contentFormat" (.list markupKind)]),
     optional "signatureHelp" signatureSupport,
     optional "references" registration,
     optional "documentHighlight" registration,
     optional "documentSymbol"
       (.record "DocumentSymbolClientCapabilities"
         [registrationFlag,
          optional "symbolKind" symbolKinds,
          optional "hierarchicalDocumentSymbolSupport" boolean,
          tagSupport]),
     optional "formatting" registration,
     optional "rangeFormatting" registration,
     optional "onTypeFormatting" registration,
     optional "declaration" goto,
     optional "definition" goto,
     optional "typeDefinition" goto,
     optional "implementation" goto,
     optional "codeAction" codeActionSupport,
     optional "codeLens" registration,
     optional "documentLink"
       (flagRecord "DocumentLinkClientCapabilities" ["dynamicRegistration", "tooltipSupport"]),
     optional "colorProvider" registration,
     optional "rename"
       (.record "RenameClientCapabilities"
         [registrationFlag,
          optional "prepareSupport" boolean,
          optional "prepareSupportDefaultBehavior" signed,
          optional "honorsChangeAnnotations" boolean]),
     optional "publishDiagnostics"
       (.record "PublishDiagnosticsClientCapabilities"
         [optional "relatedInformation" boolean,
          tagSupport,
          optional "versionSupport" boolean,
          optional "codeDescriptionSupport" boolean,
          optional "dataSupport" boolean]),
     optional "foldingRange" foldingSupport,
     optional "selectionRange"
       (flagRecord "SelectionRangeClientCapabilities" ["dynamicRegistration"]),
     optional "linkedEditingRange" registration,
     optional "callHierarchy" registration,
     optional "semanticTokens" semanticTokensSupport,
     optional "moniker" registration,
     optional "typeHierarchy" registration,
     optional "inlineValue" registration,
     optional "inlayHint"
       (.record "InlayHintClientCapabilities"
         [registrationFlag,
          optional "resolveSupport" (resolvable "InlayHintResolveClientCapabilities")]),
     optional "diagnostic"
       (flagRecord "DiagnosticClientCapabilities"
         ["dynamicRegistration", "relatedDocumentSupport"])]

/-! ## The window and the rest -/

def windowSupport : Shape :=
  .record "WindowClientCapabilities"
    [optional "workDoneProgress" boolean,
     optional "showMessage"
       (.record "ShowMessageRequestClientCapabilities"
         [optional "messageActionItem"
           (flagRecord "MessageActionItemCapabilities" ["additionalPropertiesSupport"])]),
     optional "showDocument"
       (.record "ShowDocumentClientCapabilities" [required "support" boolean])]

def generalSupport : Shape :=
  .record "GeneralClientCapabilities"
    [optional "regularExpressions"
       (.record "RegularExpressionsClientCapabilities"
         [required "engine" text, optional "version" text]),
     optional "markdown"
       (.record "MarkdownClientCapabilities"
         [required "parser" text, optional "version" text,
          optional "allowedTags" (.list text)]),
     optional "staleRequestSupport"
       (.record "StaleRequestSupportClientCapabilities"
         [required "cancel" boolean, required "retryOnContentModified" (.list text)]),
     optional "positionEncodings" (.list text)]

/-- Everything that an editor tells about itself. -/
def clientCapabilities : Shape :=
  .record "ClientCapabilities"
    [optional "workspace" workspaceSupport,
     optional "textDocument" documentSupport,
     optional "window" windowSupport,
     optional "general" generalSupport,
     optional "experimental" anything]

end PawnScope.Session.Shape
