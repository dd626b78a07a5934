import LintHost.Server.Places

/-!
# Requests that are left to others

The requests that exist and that this server does not answer, each with the shape of its
parameters: what is wrong with them is told before the request is declined.
-/

namespace LintHost.Shape

/-! ### Fields that requests share -/

/-- The fields of a record. -/
abbrev Fields := List (String × Shape)

/-- The reference to a document. -/
def documentField : String × Shape :=
  ("textDocument", document)

/-- A place in a document. -/
def placeFields : Fields :=
  [documentField, ("position", position)]

/-- How the client follows the progress of the work. -/
def progressFields : Fields :=
  [option "workDoneToken" numberOrText]

/-- How the client takes parts of the result. -/
def partialFields : Fields :=
  [option "partialResultToken" numberOrText]

/-- Parameters with a place, whose progress can be followed. -/
def atPlace (name : String) (own : Fields) : Shape :=
  .merged name own [placeFields, progressFields] .any

/-- Parameters with a place, whose result comes in parts. -/
def atPlaceInParts (name : String) (own : Fields) : Shape :=
  .merged name own [placeFields, progressFields, partialFields] .any

/-- Parameters whose progress can be followed. -/
def followed (name : String) (own : Fields) : Shape :=
  .merged name own [progressFields] .any

/-- Parameters of a request whose result comes in parts. -/
def inParts (name : String) (own : Fields) : Shape :=
  .merged name own [progressFields, partialFields] .any

/-! ### Calls and types -/

/-- A function in a hierarchy of calls. -/
def callItem : Shape :=
  .record "CallHierarchyItem" [("name", .text), ("kind", .int32),
    option "tags" (.list .int32), option "detail" .text, ("uri", .uri), ("range", range),
    ("selectionRange", range), option "data" .any]

/-- A type in a hierarchy of types. -/
def typeItem : Shape :=
  .record "TypeHierarchyItem" [("name", .text), ("kind", .int32), option "tags" .int32,
    option "detail" .text, ("uri", .uri), ("range", range), ("selectionRange", range),
    option "data" .any]

/-! ### Things that are completed later -/

/-- A reference in a document. -/
def documentLink : Shape :=
  .record "DocumentLink" [("range", range), option "target" .uri, option "tooltip" .text,
    option "data" .any]

/-- A command shown in a document. -/
def codeLens : Shape :=
  .record "CodeLens" [("range", range), option "command" command, option "data" .any]

/-- Part of the text of a hint. -/
def hintPart : Shape :=
  .record "InlayHintLabelPart" [("value", .text),
    option "tooltip" (markup "InlayHintLabelPartTooltip"), option "location" location,
    option "command" command]

/-- A hint between the words of a document. -/
def inlayHint : Shape :=
  .record "InlayHint" [("position", position),
    ("label", .oneOf "InlayHintLabel" [.text, .list hintPart]), option "kind" .int32,
    option "textEdits" (.list textEdit), option "tooltip" (markup "InlayHintTooltip"),
    flagOption "paddingLeft", flagOption "paddingRight", option "data" .any]

/-- A proposal of a completion. -/
def completionItem : Shape :=
  .record "CompletionItem" [("label", .text),
    option "labelDetails" (.record "CompletionItemLabelDetails"
      [option "detail" .text, option "description" .text]),
    option "kind" .int32, option "detail" .text, option "documentation" documentation,
    flagOption "deprecated", flagOption "preselect", option "sortText" .text,
    option "filterText" .text, option "insertText" .text, option "insertTextFormat" .int32,
    option "insertTextMode" .int32,
    option "textEdit" (.oneOf "CompletionTextEdit" [textEdit,
      .record "InsertReplaceEdit" [("newText", .text), ("insert", range), ("replace", range)]]),
    option "additionalTextEdits" (.list textEdit), option "command" command,
    option "commitCharacters" (.list .text), option "data" .any, option "tags" (.list .int32)]

/-- A proposed change. -/
def codeAction : Shape :=
  .record "CodeAction" [("title", .text), option "kind" .text,
    option "diagnostics" (.list diagnostic), option "edit" workspaceEdit,
    option "command" command, flagOption "isPreferred",
    option "disabled" (.record "CodeActionDisabled" [("reason", .text)]), option "data" .any]

/-- A symbol of the workspace. -/
def workspaceSymbol : Shape :=
  .record "WorkspaceSymbol" [("name", .text), ("kind", .int32), option "tags" (.list .int32),
    option "containerName" .text,
    ("location", .oneOf "OneOf" [location, .record "WorkspaceLocation" [("uri", .uri)]]),
    option "data" .any]

/-! ### Parameters -/

/-- What is known about a call when its parameters are asked for. -/
def signatureHelpContext : Shape :=
  let parameter := .record "ParameterInformation"
    [("label", .oneOf "ParameterLabel" [.text, .pair .nat32]),
    option "documentation" documentation]
  let signature := .record "SignatureInformation" [("label", .text),
    option "documentation" documentation, option "parameters" (.list parameter),
    option "activeParameter" .nat32]
  .record "SignatureHelpContext" [("triggerKind", .int32), option "triggerCharacter" .text,
    ("isRetrigger", .flag),
    option "activeSignatureHelp" (.record "SignatureHelp" [("signatures", .list signature),
      option "activeSignature" .nat32, option "activeParameter" .nat32])]

/-- How a document is laid out; further options are known to the client alone. -/
def formattingOptions : Shape :=
  .merged "FormattingOptions" [("tabSize", .nat32), ("insertSpaces", .flag),
    flagOption "trimTrailingWhitespace", flagOption "insertFinalNewline",
    flagOption "trimFinalNewlines"] []
    (.oneOf "FormattingProperty" [.flag, .int32, .text])

/-- What a change is asked for. -/
def codeActionContext : Shape :=
  .record "CodeActionContext" [("diagnostics", .list diagnostic),
    option "only" (.list .text), option "triggerKind" .int32]

/-- Where the run of a program has stopped. -/
def inlineValueContext : Shape :=
  .record "InlineValueContext" [("frameId", .int32), ("stoppedLocation", range)]

/-- A color. -/
def color : Shape :=
  .record "Color"
    [("red", .decimal), ("green", .decimal), ("blue", .decimal), ("alpha", .decimal)]

/-- A result that the client still has. -/
def previousResult : Shape :=
  .record "PreviousResultId" [("uri", .uri), ("value", .text)]

/-- Files that something is about to happen to. -/
def files (name item : String) (fields : List String) : Shape :=
  .record name [("files", .list (.record item (fields.map fun field => (field, .text))))]

end LintHost.Shape

namespace LintHost

open Shape

/-- The requests that exist and that this server leaves to others, each with the shape of its
parameters. -/
def foreignRequests : List (String × Shape) :=
  let goto := atPlaceInParts "GotoDefinitionParams" []
  let tokens (name : String) (more : Fields) := inParts name (documentField :: more)
  let options := ("options", formattingOptions)
  [("textDocument/willSaveWaitUntil",
      .record "WillSaveTextDocumentParams" [documentField, ("reason", .int32)]),
    ("textDocument/declaration", goto), ("textDocument/definition", goto),
    ("textDocument/typeDefinition", goto), ("textDocument/implementation", goto),
    ("textDocument/references", atPlaceInParts "ReferenceParams"
      [("context", .record "ReferenceContext" [("includeDeclaration", .flag)])]),
    ("textDocument/prepareCallHierarchy", atPlace "CallHierarchyPrepareParams" []),
    ("callHierarchy/incomingCalls",
      inParts "CallHierarchyIncomingCallsParams" [("item", callItem)]),
    ("callHierarchy/outgoingCalls",
      inParts "CallHierarchyOutgoingCallsParams" [("item", callItem)]),
    ("textDocument/prepareTypeHierarchy", atPlace "TypeHierarchyPrepareParams" []),
    ("typeHierarchy/supertypes", inParts "TypeHierarchySupertypesParams" [("item", typeItem)]),
    ("typeHierarchy/subtypes", inParts "TypeHierarchySubtypesParams" [("item", typeItem)]),
    ("textDocument/documentHighlight", atPlaceInParts "DocumentHighlightParams" []),
    ("textDocument/documentLink", inParts "DocumentLinkParams" [documentField]),
    ("documentLink/resolve", documentLink),
    ("textDocument/hover", atPlace "HoverParams" []),
    ("textDocument/codeLens", inParts "CodeLensParams" [documentField]),
    ("codeLens/resolve", codeLens),
    ("textDocument/foldingRange", inParts "FoldingRangeParams" [documentField]),
    ("textDocument/selectionRange",
      inParts "SelectionRangeParams" [documentField, ("positions", .list position)]),
    ("textDocument/documentSymbol", inParts "DocumentSymbolParams" [documentField]),
    ("textDocument/semanticTokens/full", tokens "SemanticTokensParams" []),
    ("textDocument/semanticTokens/full/delta",
      tokens "SemanticTokensDeltaParams" [("previousResultId", .text)]),
    ("textDocument/semanticTokens/range", tokens "SemanticTokensRangeParams" [("range", range)]),
    ("textDocument/inlineValue", followed "InlineValueParams"
      [documentField, ("range", range), ("context", inlineValueContext)]),
    ("textDocument/inlayHint", followed "InlayHintParams" [documentField, ("range", range)]),
    ("inlayHint/resolve", inlayHint),
    ("textDocument/moniker", atPlaceInParts "MonikerParams" []),
    ("textDocument/completion", atPlaceInParts "CompletionParams"
      [option "context" (.record "CompletionContext"
        [("triggerKind", .int32), option "triggerCharacter" .text])]),
    ("completionItem/resolve", completionItem),
    ("textDocument/diagnostic", inParts "DocumentDiagnosticParams"
      [documentField, option "identifier" .text, option "previousResultId" .text]),
    ("workspace/diagnostic", inParts "WorkspaceDiagnosticParams"
      [option "identifier" .text, ("previousResultIds", .list previousResult)]),
    ("textDocument/signatureHelp",
      atPlace "SignatureHelpParams" [option "context" signatureHelpContext]),
    ("textDocument/codeAction", inParts "CodeActionParams"
      [documentField, ("range", range), ("context", codeActionContext)]),
    ("codeAction/resolve", codeAction),
    ("textDocument/documentColor", inParts "DocumentColorParams" [documentField]),
    ("textDocument/colorPresentation", inParts "ColorPresentationParams"
      [documentField, ("color", color), ("range", range)]),
    ("textDocument/formatting", followed "DocumentFormattingParams" [documentField, options]),
    ("textDocument/rangeFormatting", followed "DocumentRangeFormattingParams"
      [documentField, ("range", range), options]),
    ("textDocument/onTypeFormatting", .merged "DocumentOnTypeFormattingParams"
      [("ch", .text), options] [placeFields] .any),
    ("textDocument/rename", atPlace "RenameParams" [("newName", .text)]),
    ("textDocument/prepareRename", .record "TextDocumentPositionParams" placeFields),
    ("textDocument/linkedEditingRange", atPlace "LinkedEditingRangeParams" []),
    ("workspace/symbol", .merged "WorkspaceSymbolParams" [("query", .text)]
      [partialFields, progressFields] .any),
    ("workspaceSymbol/resolve", workspaceSymbol),
    ("workspace/willCreateFiles", files "CreateFilesParams" "FileCreate" ["uri"]),
    ("workspace/willRenameFiles",
      files "RenameFilesParams" "FileRename" ["oldUri", "newUri"]),
    ("workspace/willDeleteFiles", files "DeleteFilesParams" "FileDelete" ["uri"]),
    ("workspace/executeCommand", followed "ExecuteCommandParams"
      [("command", .text), ("arguments", .defaulted (.list .any))])]

end LintHost
