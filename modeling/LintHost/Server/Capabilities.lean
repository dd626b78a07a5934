import LintHost.Server.Places

/-!
# What a client is able to do

A client that starts the server tells it at length what it is able to do. None of it makes a
difference to this server, but it has to have its shape.
-/

namespace LintHost.Shape

/-! ### What many capabilities have -/

/-- A capability that can be registered later, with further fields. -/
def dynamic (name : String) (fields : List (String × Shape)) : Shape :=
  .record name (flagOption "dynamicRegistration" :: fields)

/-- A capability that can be registered later, and nothing else. -/
def registration : Shape :=
  dynamic "DynamicRegistrationClientCapabilities" []

/-- A capability of a workspace whose results can be asked for anew. -/
def refreshable (name : String) : Shape :=
  .record name [flagOption "refreshSupport"]

/-- The properties that can be filled in later. -/
def lateProperties (name : String) : Shape :=
  .record name [("properties", .list .text)]

/-- The tags that are known; whether there are any may be said instead. -/
def tags : String × Shape :=
  ("tagSupport", .switch (.record "TagSupport" [("valueSet", .list .int32)]))

/-- The kinds of symbols that are known. -/
def symbolKinds : Shape :=
  .record "SymbolKindCapability" [option "valueSet" (.list .int32)]

/-- The formats of a text. -/
def formats : Shape :=
  .list (.word ["plaintext", "markdown"])

/-! ### Workspace -/

/-- What the client can do with edits of many documents. -/
def workspaceEditCapabilities : Shape :=
  .record "WorkspaceEditClientCapabilities" [flagOption "documentChanges",
    option "resourceOperations" (.list (.word ["create", "rename", "delete"])),
    option "failureHandling"
      (.word ["abort", "transactional", "textOnlyTransactional", "undo"]),
    flagOption "normalizesLineEndings",
    option "changeAnnotationSupport" (.record "ChangeAnnotationWorkspaceEditClientCapabilities"
      [flagOption "groupsOnLabel"])]

/-- What the client can do with symbols of the workspace. -/
def workspaceSymbolCapabilities : Shape :=
  dynamic "WorkspaceSymbolClientCapabilities" [option "symbolKind" symbolKinds, tags,
    option "resolveSupport" (lateProperties "WorkspaceSymbolResolveSupportCapability")]

/-- What the client tells of its operations on files. -/
def fileOperationCapabilities : Shape :=
  dynamic "WorkspaceFileOperationsClientCapabilities"
    (["didCreate", "willCreate", "didRename", "willRename", "didDelete", "willDelete"].map
      flagOption)

/-- What the client can do with a workspace. -/
def workspaceCapabilities : Shape :=
  .record "WorkspaceClientCapabilities" [flagOption "applyEdit",
    option "workspaceEdit" workspaceEditCapabilities,
    option "didChangeConfiguration" registration,
    option "didChangeWatchedFiles" (dynamic "DidChangeWatchedFilesClientCapabilities"
      [flagOption "relativePatternSupport"]),
    option "symbol" workspaceSymbolCapabilities, option "executeCommand" registration,
    flagOption "workspaceFolders", flagOption "configuration",
    option "semanticTokens" (refreshable "SemanticTokensWorkspaceClientCapabilities"),
    option "codeLens" (refreshable "CodeLensWorkspaceClientCapabilities"),
    option "fileOperations" fileOperationCapabilities,
    option "inlineValue" (refreshable "InlineValueWorkspaceClientCapabilities"),
    option "inlayHint" (refreshable "InlayHintWorkspaceClientCapabilities"),
    option "diagnostic" (refreshable "DiagnosticWorkspaceClientCapabilities")]

/-! ### Documents -/

/-- What the client can do with one proposal of a completion. -/
def completionItemCapabilities : Shape :=
  .record "CompletionItemCapability" [flagOption "snippetSupport",
    flagOption "commitCharactersSupport", option "documentationFormat" formats,
    flagOption "deprecatedSupport", flagOption "preselectSupport", tags,
    flagOption "insertReplaceSupport",
    option "resolveSupport" (lateProperties "CompletionItemCapabilityResolveSupport"),
    option "insertTextModeSupport"
      (.record "InsertTextModeSupport" [("valueSet", .list .int32)]),
    flagOption "labelDetailsSupport"]

/-- What the client can do with completions. -/
def completionCapabilities : Shape :=
  dynamic "CompletionClientCapabilities" [option "completionItem" completionItemCapabilities,
    option "completionItemKind"
      (.record "CompletionItemKindCapability" [option "valueSet" (.list .int32)]),
    flagOption "contextSupport", option "insertTextMode" .int32,
    option "completionList"
      (.record "CompletionListCapability" [option "itemDefaults" (.list .text)])]

/-- What the client can do with the parameters of a call. -/
def signatureHelpCapabilities : Shape :=
  dynamic "SignatureHelpClientCapabilities"
    [option "signatureInformation" (.record "SignatureInformationSettings"
      [option "documentationFormat" formats,
      option "parameterInformation"
        (.record "ParameterInformationSettings" [flagOption "labelOffsetSupport"]),
      flagOption "activeParameterSupport"]),
    flagOption "contextSupport"]

/-- What the client can do with the place where something is declared. -/
def gotoCapabilities : Shape :=
  dynamic "GotoCapability" [flagOption "linkSupport"]

/-- What the client can do with proposed changes. -/
def codeActionCapabilities : Shape :=
  dynamic "CodeActionClientCapabilities"
    [option "codeActionLiteralSupport" (.record "CodeActionLiteralSupport"
      [("codeActionKind",
        .record "CodeActionKindLiteralSupport" [("valueSet", .list .text)])]),
    flagOption "isPreferredSupport", flagOption "disabledSupport", flagOption "dataSupport",
    option "resolveSupport" (lateProperties "CodeActionCapabilityResolveSupport"),
    flagOption "honorsChangeAnnotations"]

/-- What the client can do with parts of a document that fold. -/
def foldingCapabilities : Shape :=
  dynamic "FoldingRangeClientCapabilities" [option "rangeLimit" .nat32,
    flagOption "lineFoldingOnly",
    option "foldingRangeKind" (.record "FoldingRangeKindCapability"
      [option "valueSet" (.list (.word ["comment", "imports", "region"]))]),
    option "foldingRange"
      (.record "FoldingRangeCapability" [flagOption "collapsedText"])]

/-- What the client can do with the meaning of words. -/
def semanticTokenCapabilities : Shape :=
  dynamic "SemanticTokensClientCapabilities"
    [("requests", .record "SemanticTokensClientCapabilitiesRequests" [flagOption "range",
      option "full" (.oneOf "SemanticTokensFullOptions"
        [.flag, .record "SemanticTokensFullOptions" [flagOption "delta"]])]),
    ("tokenTypes", .list .text), ("tokenModifiers", .list .text),
    ("formats", .list (.word ["relative"])), flagOption "overlappingTokenSupport",
    flagOption "multilineTokenSupport", flagOption "serverCancelSupport",
    flagOption "augmentsSyntaxTokens"]

/-- What the client can do with a document. -/
def documentCapabilities : Shape :=
  .record "TextDocumentClientCapabilities"
    [option "synchronization" (dynamic "TextDocumentSyncClientCapabilities"
      (["willSave", "willSaveWaitUntil", "didSave"].map flagOption)),
    option "completion" completionCapabilities,
    option "hover" (dynamic "HoverClientCapabilities" [option "contentFormat" formats]),
    option "signatureHelp" signatureHelpCapabilities,
    option "references" registration, option "documentHighlight" registration,
    option "documentSymbol" (dynamic "DocumentSymbolClientCapabilities"
      [option "symbolKind" symbolKinds, flagOption "hierarchicalDocumentSymbolSupport", tags]),
    option "formatting" registration, option "rangeFormatting" registration,
    option "onTypeFormatting" registration,
    option "declaration" gotoCapabilities, option "definition" gotoCapabilities,
    option "typeDefinition" gotoCapabilities, option "implementation" gotoCapabilities,
    option "codeAction" codeActionCapabilities, option "codeLens" registration,
    option "documentLink"
      (dynamic "DocumentLinkClientCapabilities" [flagOption "tooltipSupport"]),
    option "colorProvider" registration,
    option "rename" (dynamic "RenameClientCapabilities" [flagOption "prepareSupport",
      option "prepareSupportDefaultBehavior" .int32, flagOption "honorsChangeAnnotations"]),
    option "publishDiagnostics" (.record "PublishDiagnosticsClientCapabilities"
      [flagOption "relatedInformation", tags, flagOption "versionSupport",
      flagOption "codeDescriptionSupport", flagOption "dataSupport"]),
    option "foldingRange" foldingCapabilities,
    option "selectionRange" (dynamic "SelectionRangeClientCapabilities" []),
    option "linkedEditingRange" registration, option "callHierarchy" registration,
    option "semanticTokens" semanticTokenCapabilities,
    option "moniker" registration, option "typeHierarchy" registration,
    option "inlineValue" registration,
    option "inlayHint" (dynamic "InlayHintClientCapabilities"
      [option "resolveSupport" (lateProperties "InlayHintResolveClientCapabilities")]),
    option "diagnostic"
      (dynamic "DiagnosticClientCapabilities" [flagOption "relatedDocumentSupport"])]

/-! ### Windows and the rest -/

/-- What the client can show outside documents. -/
def windowCapabilities : Shape :=
  .record "WindowClientCapabilities" [flagOption "workDoneProgress",
    option "showMessage" (.record "ShowMessageRequestClientCapabilities"
      [option "messageActionItem" (.record "MessageActionItemCapabilities"
        [flagOption "additionalPropertiesSupport"])]),
    option "showDocument" (.record "ShowDocumentClientCapabilities" [("support", .flag)])]

/-- What the client can do beyond documents. -/
def generalCapabilities : Shape :=
  .record "GeneralClientCapabilities"
    [option "regularExpressions" (.record "RegularExpressionsClientCapabilities"
      [("engine", .text), option "version" .text]),
    option "markdown" (.record "MarkdownClientCapabilities"
      [("parser", .text), option "version" .text, option "allowedTags" (.list .text)]),
    option "staleRequestSupport" (.record "StaleRequestSupportClientCapabilities"
      [("cancel", .flag), ("retryOnContentModified", .list .text)]),
    option "positionEncodings" (.list .text)]

/-- Everything that a client can do. -/
def clientCapabilities : Shape :=
  .record "ClientCapabilities" [option "workspace" workspaceCapabilities,
    option "textDocument" documentCapabilities, option "window" windowCapabilities,
    option "general" generalCapabilities, option "experimental" .any]

end LintHost.Shape
