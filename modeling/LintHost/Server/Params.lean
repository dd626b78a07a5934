import LintHost.Server.Capabilities
import LintHost.Server.State

/-!
# What comes with a message

The parameters of the messages that the server handles: their shapes, and the values that the
server takes from them. `StartParams.ofJson` reads those of the message that starts it,
`Notification.kinds` lists the notifications.
-/

namespace LintHost

/-! ### Values of a known shape -/

namespace Json

/-- The text that a value is. -/
def text? : Json → Option String
  | .string value => some value
  | _ => none

/-- The whole number that a value is. -/
def int? : Json → Option Int
  | .number (.whole value) => some value
  | _ => none

/-- The items of a value; one that is no array has none. -/
def itemsOf : Json → List Json
  | .array items => items
  | _ => []

/-- The text of a member. -/
def memberText? (key : String) (value : Json) : Option String :=
  (value.member? key).bind text?

/-- The whole number of a member. -/
def memberInt? (key : String) (value : Json) : Option Int :=
  (value.member? key).bind int?

/-- The URI of a member. -/
def memberUri? (key : String) (value : Json) : Option Uri :=
  (value.memberText? key).bind fun text => (Uri.parse text).toOption

/-- The items of a member; none if it is missing. -/
def memberItems (key : String) (value : Json) : List Json :=
  ((value.member? key).map itemsOf).getD []

end Json

/-! ### Starting -/

/-- What a client says when it starts the server. -/
structure StartParams where
  folders : List Uri := []
  root : Option Uri := none
  options : Option Json := none
deriving Inhabited

namespace Shape

/-- The parameters of the message that starts the server. -/
def start : Shape :=
  .record "InitializeParams"
    [option "processId" .nat32, option "rootPath" .text,
    ("rootUri", .defaulted (.optional .uri)), option "initializationOptions" .any,
    ("capabilities", clientCapabilities),
    ("trace", .defaulted (.optional (.word ["off", "messages", "verbose"]))),
    option "workspaceFolders" (.list workspaceFolder),
    option "clientInfo"
      (.record "ClientInfo" [("name", .text), option "version" .text]),
    option "locale" .text]

end Shape

/-- The places of the folders in a list. -/
def folderUris (folders : List Json) : List Uri :=
  folders.filterMap fun folder => folder.memberUri? "uri"

/-- The parameters of the message that starts the server. -/
def StartParams.ofJson (value : Json) : Shaped StartParams := do
  let read ← Shape.start.read value.canonical
  return {
    folders := folderUris (read.memberItems "workspaceFolders")
    root := read.memberUri? "rootUri"
    options := (read.member? "initializationOptions").filter fun options => !options.isNull }

/-! ### Notifications -/

/-- A sort of notification: its method, the shape of its parameters, and what they say. -/
structure NotificationKind where
  method : String
  params : Shape
  ofJson? : Json → Option Notification

namespace NotificationKind

open Shape

/-- The client is ready. -/
def ready : NotificationKind where
  method := "initialized"
  params := .record "InitializedParams" []
  ofJson? _ := some .ready

/-- A document was opened. -/
def opened : NotificationKind where
  method := "textDocument/didOpen"
  params := .record "DidOpenTextDocumentParams"
    [("textDocument", .record "TextDocumentItem"
      [("uri", .uri), ("languageId", .text), ("version", .int32), ("text", .text)])]
  ofJson? value := do
    let document ← value.member? "textDocument"
    return .opened (← document.memberUri? "uri") (← document.memberText? "text")
      (← document.memberInt? "version")

/-- A document was changed. The server asks for whole texts, so a range has no effect. -/
def changed : NotificationKind where
  method := "textDocument/didChange"
  params := .record "DidChangeTextDocumentParams"
    [("textDocument", .record "VersionedTextDocumentIdentifier"
      [("uri", .uri), ("version", .int32)]),
    ("contentChanges", .list (.record "TextDocumentContentChangeEvent"
      [option "range" range, option "rangeLength" .nat32, ("text", .text)]))]
  ofJson? value := do
    let document ← value.member? "textDocument"
    let texts := (value.memberItems "contentChanges").filterMap (Json.memberText? "text")
    return .changed (← document.memberUri? "uri") texts (← document.memberInt? "version")

/-- A document was saved. -/
def saved : NotificationKind where
  method := "textDocument/didSave"
  params := .record "DidSaveTextDocumentParams"
    [("textDocument", document), option "text" .text]
  ofJson? value := do
    let document ← value.member? "textDocument"
    return .saved (← document.memberUri? "uri") (value.memberText? "text")

/-- A document was closed. -/
def closed : NotificationKind where
  method := "textDocument/didClose"
  params := .record "DidCloseTextDocumentParams" [("textDocument", document)]
  ofJson? value := do
    let document ← value.member? "textDocument"
    return .closed (← document.memberUri? "uri")

/-- The configuration was changed. -/
def configuration : NotificationKind where
  method := "workspace/didChangeConfiguration"
  params := .record "DidChangeConfigurationParams" [("settings", .any)]
  ofJson? value := do return .configuration (← value.member? "settings")

/-- Files were changed on disk. -/
def watchedFiles : NotificationKind where
  method := "workspace/didChangeWatchedFiles"
  params := .record "DidChangeWatchedFilesParams"
    [("changes", .list (.record "FileEvent" [("uri", .uri), ("type", .int32)]))]
  ofJson? value :=
    some (.watchedFiles ((value.memberItems "changes").filterMap (Json.memberUri? "uri")))

/-- Folders were added to the workspace and removed from it. -/
def folders : NotificationKind where
  method := "workspace/didChangeWorkspaceFolders"
  params := .record "DidChangeWorkspaceFoldersParams"
    [("event", .record "WorkspaceFoldersChangeEvent"
      [("added", .list workspaceFolder), ("removed", .list workspaceFolder)])]
  ofJson? value := do
    let event ← value.member? "event"
    return .folders (folderUris (event.memberItems "added"))
      (folderUris (event.memberItems "removed"))

/-- The notifications that the server handles. -/
def all : List NotificationKind :=
  [ready, opened, changed, saved, closed, configuration, watchedFiles, folders]

/-- Reads the parameters of a notification; those that cannot be read say nothing. -/
def read? (kind : NotificationKind) (value : Json) : Option Notification :=
  (kind.params.read value.canonical).toOption.bind kind.ofJson?

end NotificationKind

end LintHost
