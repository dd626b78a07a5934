import LintHost.Server.Documents
import LintHost.Server.Events
import LintHost.Server.Publication
import LintHost.Session

/-!
# The language server

The state of the server, what a client can notify it of, and the lints that it runs in the
background. Everything happens in steps that are functions of the state, so that any order of
them can be considered:

* a notification is handled in one step, `ServerState.handle`, which changes the state, may
  send messages and starts lint tasks; only opening a document is two, since the file on disk
  is read before the document is stored (`PendingOpen`);
* a lint task notes the text and version it is for, starts its lint, waits for the checker,
  compares the document with what the lint saw, and compares the store with what it noted
  before it publishes. `LintTask.step` takes the next of these steps, and waits only where
  the checker is running; `LintTask.receive` ends the wait.

A task publishes only for the text and version that it noted.
-/

namespace LintHost

/-! ### Messages -/

/-- How urgent a message of the server's log is. -/
inductive LogLevel where
  | error
  | warning
  | info
deriving DecidableEq, Inhabited

/-- What the server sends to its client. -/
inductive ServerMessage where
  /-- The diagnostics of a document, in place of all earlier ones. -/
  | publish (uri : Uri) (diagnostics : List PublishedDiagnostic) (version : Option Int)
  /-- A line for the client's log. -/
  | log (level : LogLevel) (text : String)
  /-- The wish to be told of changed configuration files. -/
  | watchConfigFiles
deriving DecidableEq, Inhabited

/-- What a client notifies the server of. -/
inductive Notification where
  /-- The client has taken note of what the server can do. -/
  | ready
  | opened (uri : Uri) (text : String) (version : Int)
  /-- A document has changed; of several texts the last one is its text now. -/
  | changed (uri : Uri) (texts : List String) (version : Int)
  | saved (uri : Uri) (text : Option String)
  | closed (uri : Uri)
  | configuration (payload : Json)
  | watchedFiles (uris : List Uri)
  | folders (added removed : List Uri)
deriving Inhabited

/-- Whether the server waits for something outside while it handles the notification: for the
client when it is ready, and for the file of a document that is opened. -/
def Notification.waits : Notification → Bool
  | .ready => true
  | .opened uri _ _ => uri.sourcePath?.isSome
  | _ => false

/-! ### The state and its tasks -/

/-- The state of the server: the open documents, the session of its lints, and the files. -/
structure ServerState where
  documents : DocumentStore := {}
  session : LintSession := {}
  files : FileSystem := {}
deriving Inhabited

/-- How far a lint task has come. -/
inductive TaskStage where
  /-- It has not run yet. -/
  | spawned
  /-- It has noted the text and version that it is for. -/
  | noted (before : Snapshot)
  /-- Its lint has begun, and waits for the checker or has its findings. -/
  | linting (before : Snapshot) (lint : Lint)
  /-- Its lint has found the document unchanged. -/
  | compared (before : Snapshot) (findings : List Diagnostic)
deriving Inhabited

/-- A lint in the background. -/
structure LintTask where
  uri : Uri
  path : Path
  stage : TaskStage := .spawned
deriving Inhabited

/-- What a step leaves: the state, the tasks that go on or start, and the messages sent. -/
structure StepResult where
  state : ServerState
  tasks : List LintTask := []
  messages : List ServerMessage := []
deriving Inhabited

namespace LintTask

/-- The task for a document, if it is one that is linted. -/
def of (uri : Uri) : List LintTask :=
  match uri.sourcePath? with
  | some path => [{ uri, path }]
  | none => []

/-- Notes the text and version; a document that is not open ends the task. -/
def note (task : LintTask) (s : ServerState) : StepResult :=
  match s.documents.snapshot? task.uri with
  | some before => { state := s, tasks := [{ task with stage := .noted before }] }
  | none => { state := s }

/-- Begins the lint of the document as it is now. -/
def begin (task : LintTask) (before : Snapshot) (s : ServerState) : StepResult :=
  let (lint?, session, files) := s.session.begin s.files (s.documents.view task.uri task.path)
  { state := { s with session, files }
    tasks := lint?.toList.map fun lint => { task with stage := .linting before lint } }

/-- Compares the document with what the lint saw. An error is logged. -/
def compare (task : LintTask) (before : Snapshot) (lint : Lint) (s : ServerState) : StepResult :=
  match lint.conclude (s.documents.view task.uri task.path) with
  | .ok (some findings) =>
    { state := s, tasks := [{ task with stage := .compared before findings }] }
  | .ok none => { state := s }
  | .error e => { state := s, messages := [.log .error ("mypy-lint: " ++ e.message)] }

/-- Publishes the findings if the document still has the text and version noted. -/
def publish (task : LintTask) (before : Snapshot) (findings : List Diagnostic)
    (s : ServerState) : StepResult :=
  if s.documents.isUnchangedSince task.uri before then
    let lines := SourceLines.ofText before.text
    { state := s
      messages := [.publish task.uri (findings.map (PublishedDiagnostic.ofDiagnostic lines))
        (some before.version)] }
  else { state := s }

/-- The next step of a task; none while the checker runs for it. -/
def step (task : LintTask) (s : ServerState) : Option StepResult :=
  match task.stage with
  | .spawned => some (task.note s)
  | .noted before => some (task.begin before s)
  | .linting before lint =>
    match lint.stage with
    | .running _ => none
    | .checked _ => some (task.compare before lint s)
  | .compared before findings => some (task.publish before findings s)

/-- The run of the checker that a task waits for. -/
def waitsFor? (task : LintTask) : Option Invocation :=
  match task.stage with
  | .linting _ lint =>
    match lint.stage with
    | .running invocation => some invocation
    | .checked _ => none
  | _ => none

/-- Takes what came of the checker; a task that does not wait for it stays as it is. -/
def receive (task : LintTask) (s : ServerState) (result : Except SystemError RawResult) :
    StepResult :=
  match task.stage with
  | .linting before lint =>
    let (lint, files) := lint.receive s.files result
    { state := { s with files }, tasks := [{ task with stage := .linting before lint }] }
  | _ => { state := s, tasks := [task] }

end LintTask

/-! ### Opening a document -/

/-- A document that is being opened: the text on disk has been read. -/
structure PendingOpen where
  uri : Uri
  text : String
  version : Int
  savedText : Option String
deriving DecidableEq, Inhabited

/-- The first step of opening a document: reads the file. A document that is not linted is
not opened. -/
def PendingOpen.begin (s : ServerState) (uri : Uri) (text : String) (version : Int) :
    Option PendingOpen :=
  uri.sourcePath?.map fun path =>
    { uri, text, version, savedText := (s.files.readText path).toOption }

namespace ServerState

/-- Starts a lint for an event of a document, if the settings ask for it. -/
def lintFor (s : ServerState) (event : DocumentEvent) (uri : Uri) : StepResult :=
  { state := s
    tasks := if shouldLint event s.session.settings.current then LintTask.of uri else [] }

/-- The second step of opening a document: stores it and starts its lint. -/
def finishOpen (s : ServerState) (pending : PendingOpen) : StepResult :=
  let documents :=
    s.documents.openAt pending.uri pending.text pending.version pending.savedText
  { s with documents }.lintFor .opened pending.uri

/-! ### Handling notifications -/

/-- Starts a lint of every open document. -/
def lintAll (s : ServerState) : StepResult :=
  { state := s, tasks := s.documents.uris.flatMap LintTask.of }

/-- The state that has forgotten where configuration files are. -/
def invalidate (s : ServerState) : ServerState :=
  { s with session := { s.session with finder := s.session.finder.invalidate } }

/-- Puts settings in place; a value that is no settings is refused and logged. Tells whether
there are new settings. -/
def applySettings (s : ServerState) (value : Json) : Bool × StepResult :=
  match s.session.settings.update value with
  | (.ok _, settings) =>
    (true, { state := { s with session := { s.session with settings } }.invalidate })
  | (.error e, _) =>
    (false, { state := s
              messages := [.log .warning ("mypy-lint: keeping previous settings: " ++ e.message)] })

/-- Takes over the workspace and the settings of a client that starts: its folders, or else
its root. -/
def start (s : ServerState) (folders : List Uri) (root : Option Uri) (options : Option Json) :
    StepResult :=
  let paths := (if folders.isEmpty then root.toList else folders).filterMap Uri.filePath?
  let s := { s with session := { s.session with roots := s.session.roots.replace paths } }
  match options.bind initializationSettings with
  | some value => (s.applySettings value).2
  | none => { state := s }

/-- A document has another text. -/
def handleChange (s : ServerState) (uri : Uri) (texts : List String) (version : Int) :
    StepResult :=
  match texts.getLast? with
  | none => { state := s }
  | some text =>
    match s.documents.changeAt uri text version with
    | (true, documents) => { s with documents }.lintFor .changed uri
    | (false, _) => { state := s }

/-- A file was saved: a configuration file concerns all documents, any other its own. -/
def handleSave (s : ServerState) (uri : Uri) (text : Option String) : StepResult :=
  if isProjectConfig s.session.finder uri.filePath? then s.invalidate.lintAll
  else
    match s.documents.saveAt uri text with
    | (true, documents) => { s with documents }.lintFor .saved uri
    | (false, _) => { state := s }

/-- A document was closed; one that was open no longer shows anything. -/
def handleClose (s : ServerState) (uri : Uri) : StepResult :=
  let (wasOpen, documents) := s.documents.closeAt uri
  { state := { s with documents }
    messages := if wasOpen then [.publish uri [] none] else [] }

/-- The configuration has changed; a payload with settings that are accepted concerns all
documents. -/
def handleConfiguration (s : ServerState) (payload : Json) : StepResult :=
  match configurationSettings payload with
  | none => { state := s }
  | some value =>
    match s.applySettings value with
    | (true, result) => result.state.lintAll
    | (false, result) => result

/-- Handles a notification in one step. -/
def handle (s : ServerState) : Notification → StepResult
  | .ready =>
    { state := s
      messages := [.watchConfigFiles, .log .info "mypy language server initialized"] }
  | .opened uri text version =>
    match PendingOpen.begin s uri text version with
    | some pending => s.finishOpen pending
    | none => { state := s }
  | .changed uri texts version => s.handleChange uri texts version
  | .saved uri text => s.handleSave uri text
  | .closed uri => s.handleClose uri
  | .configuration payload => s.handleConfiguration payload
  | .watchedFiles uris =>
    if touchesProjectConfig s.session.finder uris then s.invalidate.lintAll
    else { state := s }
  | .folders added removed =>
    let roots := s.session.roots.update (added.filterMap Uri.filePath?)
      (removed.filterMap Uri.filePath?)
    { state := { s with session := { s.session with roots } } }

end ServerState

end LintHost
