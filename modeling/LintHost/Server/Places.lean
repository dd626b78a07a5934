import LintHost.Server.Shape

/-!
# Documents, places and edits

The shapes that most messages are made of: references to documents, places in them, and what
can be done to them.
-/

namespace LintHost.Shape

/-- A field that may be missing or `null`. -/
def option (name : String) (content : Shape) : String × Shape :=
  (name, .optional content)

/-- A flag that may be missing or `null`. -/
def flagOption (name : String) : String × Shape :=
  option name .flag

/-! ### Documents and places -/

/-- A reference to a document. -/
def document : Shape :=
  .record "TextDocumentIdentifier" [("uri", .uri)]

/-- A place in a document. -/
def position : Shape :=
  .record "Position" [("line", .nat32), ("character", .nat32)]

/-- A stretch of a document. -/
def range : Shape :=
  .record "Range" [("start", position), ("end", position)]

/-- A stretch of some document. -/
def location : Shape :=
  .record "Location" [("uri", .uri), ("range", range)]

/-- A folder of the workspace. -/
def workspaceFolder : Shape :=
  .record "WorkspaceFolder" [("uri", .uri), ("name", .text)]

/-- A number or a text that identifies something. -/
def numberOrText : Shape :=
  .oneOf "NumberOrString" [.int32, .text]

/-- A text with or without markup; the name is that of the choice. -/
def markup (name : String) : Shape :=
  .oneOf name [.text,
    .record "MarkupContent" [("kind", .word ["plaintext", "markdown"]), ("value", .text)]]

/-- A documentation. -/
def documentation : Shape :=
  markup "Documentation"

/-- A command that the client can have executed. -/
def command : Shape :=
  .record "Command"
    [("title", .text), ("command", .text), option "arguments" (.list .any)]

/-! ### Diagnostics -/

/-- A diagnostic as the client knows it. -/
def diagnostic : Shape :=
  .record "Diagnostic" [("range", range), option "severity" .int32,
    option "code" numberOrText,
    option "codeDescription" (.record "CodeDescription" [("href", .uri)]),
    option "source" .text, ("message", .text),
    option "relatedInformation" (.list (.record "DiagnosticRelatedInformation"
      [("location", location), ("message", .text)])),
    option "tags" (.list .int32), option "data" .any]

/-! ### Edits -/

/-- A new text for a stretch. -/
def textEdit : Shape :=
  .record "TextEdit" [("range", range), ("newText", .text)]

/-- A new text for a stretch, with a note. -/
def annotatedEdit : Shape :=
  .merged "AnnotatedTextEdit" [("annotationId", .text)]
    [[("range", range), ("newText", .text)]] .any

/-- The edits of one document. -/
def documentEdit : Shape :=
  .record "TextDocumentEdit"
    [("textDocument", .record "OptionalVersionedTextDocumentIdentifier"
      [("uri", .uri), option "version" .int32]),
    ("edits", .list (.oneOf "OneOf" [textEdit, annotatedEdit]))]

/-- Whether a file that is in the way matters. -/
def overwriteOptions (name : String) : Shape :=
  .record name [flagOption "overwrite", flagOption "ignoreIfExists"]

/-- A file that is created, renamed or deleted. -/
def fileOperation : Shape :=
  .tagged "kind" [
    ("create", .record "CreateFile" [("uri", .uri),
      option "options" (overwriteOptions "CreateFileOptions"), option "annotationId" .text]),
    ("rename", .record "RenameFile" [("oldUri", .uri), ("newUri", .uri),
      option "options" (overwriteOptions "RenameFileOptions"), option "annotationId" .text]),
    ("delete", .record "DeleteFile" [("uri", .uri),
      option "options" (.record "DeleteFileOptions" [flagOption "recursive",
        flagOption "ignoreIfNotExists", option "annotationId" .text])])]

/-- Edits of many documents. -/
def workspaceEdit : Shape :=
  .record "WorkspaceEdit"
    [("changes", .defaulted (.optional (.table "map" .uri (.list textEdit)))),
    option "documentChanges" (.oneOf "DocumentChanges" [.list documentEdit,
      .list (.oneOf "DocumentChangeOperation" [fileOperation, documentEdit])]),
    option "changeAnnotations" (.table "a map" .text (.record "ChangeAnnotation"
      [("label", .text), flagOption "needsConfirmation", option "description" .text]))]

end LintHost.Shape
