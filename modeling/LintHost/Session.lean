import LintHost.Checker
import LintHost.CheckerReport
import LintHost.Document

/-!
# Linting a document

A lint resolves the configuration of a document, runs the checker once, and reads its report.
While the checker runs the document may be edited or closed and the settings may change, so a
lint is an object with two ends: `LintSession.begin` takes a snapshot of the settings and the
document and goes as far as the checker; `Lint.receive` takes what came of the checker; and
`Lint.conclude` compares the document with the snapshot. Findings for a document that is
closed or has another text by then are dropped, since a newer lint covers the new text; an
error is reported all the same.

A failed checker and a command that cannot be run are not errors of the lint: they are
reported as a diagnostic on the document.
-/

namespace LintHost

/-! ### Errors -/

/-- Why a lint failed in a way that the user cannot mend in the document. -/
inductive LintError where
  | config (error : ConfigError)
  /-- The shadow file cannot be written. -/
  | shadowFile (cause : SystemError)
  /-- The checker cannot be started. -/
  | spawn (executable : String) (cause : SystemError)
  /-- The file to lint cannot be read. -/
  | unreadableSource (path : Path) (cause : SystemError)
deriving Inhabited

namespace LintError

/-- The message, with the given words for a failure of the system. -/
def messageWith (words : SystemError → String) : LintError → String
  | .config error => error.messageWith words
  | .shadowFile cause => "failed to write shadow file: " ++ words cause
  | .spawn executable cause => "failed to run `" ++ executable ++ "`: " ++ words cause
  | .unreadableSource path cause => "failed to read " ++ path.text ++ ": " ++ words cause

/-- The message. -/
def message : LintError → String :=
  messageWith SystemError.message

end LintError

/-! ### Lints -/

/-- The findings of a lint, or none if there is nothing to report for it. -/
abbrev LintResult := Except LintError (Option (List Diagnostic))

/-- How far a lint has come: it waits for the checker, or the findings are known. -/
inductive LintStage where
  | running (invocation : Invocation)
  | checked (findings : Except LintError (List Diagnostic))
deriving Inhabited

/-- A lint under way: the file, its lines as they were at the start, and how far it is. -/
structure Lint where
  path : Path
  lines : SourceLines
  stage : LintStage
deriving Inhabited

/-- What lints share: the settings, the finder of configuration files with its memory, and
the project roots. -/
structure LintSession where
  settings : SettingsStore := {}
  finder : Finder := {}
  roots : Roots := {}
deriving DecidableEq, Inhabited

/-- The message for a command setting that cannot be run. -/
def invalidCommandMessage : String :=
  "The mypy command setting is invalid"

namespace Lint

/-- What a lint reports for a run that could not be prepared or has failed. -/
def findingsOfError (path : Path) (lines : SourceLines) :
    InvokeError → Except LintError (List Diagnostic)
  | .config e => .error (.config e)
  | .shadowFile cause => .error (.shadowFile cause)
  | .spawn executable cause => .error (.spawn executable cause)
  | .tool record =>
    .ok [.toolFailure path InvokeError.toolMessage record.result.stderr lines]

/-- What a lint reports for a configuration that could not be resolved. -/
def findingsOfConfigError (path : Path) (lines : SourceLines) (e : ConfigError) :
    Except LintError (List Diagnostic) :=
  if e.isUserFacing then .ok [.toolFailure path invalidCommandMessage e.message lines]
  else .error (.config e)

/-- The findings of a concluded run. -/
def findingsOfRun (path : Path) (lines : SourceLines) :
    Except InvokeError InvocationRecord → Except LintError (List Diagnostic)
  | .ok record => .ok (parseReport record.result.stdout path record.plan.workingDirectory lines)
  | .error e => findingsOfError path lines e

/-- The lint after the checker has finished, and the file system without its shadow file.
A lint that does not wait for the checker stays as it is. -/
def receive (lint : Lint) (fs : FileSystem) (result : Except SystemError RawResult) :
    Lint × FileSystem :=
  match lint.stage with
  | .running invocation =>
    let (outcome, fs) := invocation.conclude fs result
    ({ lint with stage := .checked (findingsOfRun lint.path lint.lines outcome) }, fs)
  | .checked _ => (lint, fs)

/-- Whether the findings still belong to the document. -/
def isCurrent (lint : Lint) (now : DocumentView) : Bool :=
  now.isAlive && now.text == lint.lines.text

/-- The result of a lint, given the document as it is now. -/
def conclude (lint : Lint) (now : DocumentView) : LintResult :=
  match lint.stage with
  | .running _ => .ok none
  | .checked (.error e) => .error e
  | .checked (.ok findings) => .ok (if lint.isCurrent now then some findings else none)

end Lint

namespace LintSession

/-- How far a check comes before the checker has to run, with the session and the file
system afterwards. -/
def check (session : LintSession) (fs : FileSystem) (settings : Settings) (target : CheckTarget)
    (lines : SourceLines) : LintStage × LintSession × FileSystem :=
  let (config, finder) := resolveConfig session.finder fs settings target.path
  let session := { session with finder }
  match config with
  | .error e => (.checked (Lint.findingsOfConfigError target.path lines e), session, fs)
  | .ok config =>
    let directory := workingDirectory config target.path session.roots
    match Invocation.prepare fs target config directory with
    | .error e => (.checked (Lint.findingsOfError target.path lines e), session, fs)
    | .ok (fs, invocation) => (.running invocation, session, fs)

/-- Starts to lint a document as it is now; a document without a path is not linted. -/
def begin (session : LintSession) (fs : FileSystem) (doc : DocumentView) :
    Option Lint × LintSession × FileSystem :=
  match doc.path with
  | none => (none, session, fs)
  | some path =>
    let lines := SourceLines.ofText doc.text
    let target : CheckTarget := { path, content := doc.text, isModified := doc.isModified }
    let (stage, session, fs) := session.check fs session.settings.current target lines
    (some { path, lines, stage }, session, fs)

end LintSession

/-! ### What happens meanwhile -/

/-- What may happen in the editor while the checker runs. -/
inductive EditorEvent where
  /-- The document gets another text. -/
  | setText (text : String)
  /-- Text is added at the end of the document. -/
  | append (text : String)
  | setModified (value : Bool)
  | setAlive (value : Bool)
  /-- New settings arrive; a value that is no settings is ignored. -/
  | settings (value : Json)
deriving Inhabited

namespace EditorEvent

/-- The effect of an event on the document. -/
def onDocument : EditorEvent → DocumentView → DocumentView
  | .setText text, doc => { doc with text }
  | .append text, doc => { doc with text := doc.text ++ text }
  | .setModified value, doc => { doc with isModified := value }
  | .setAlive value, doc => { doc with isAlive := value }
  | .settings _, doc => doc

/-- The effect of an event on the session. -/
def onSession : EditorEvent → LintSession → LintSession
  | .settings value, session => { session with settings := (session.settings.update value).2 }
  | _, session => session

end EditorEvent

/-! ### A session with its surroundings -/

/-- All that a lint reads and changes: the session, the files, and the checker's state. -/
structure Workspace (σ : Type) where
  session : LintSession
  files : FileSystem
  checker : σ
deriving Inhabited

namespace Workspace

variable {σ : Type}

/-- Lints a document, with the given events in the editor once the checker runs. They
happen only if it does. Gives the result, the document afterwards, and the workspace. -/
def lint (checker : Checker σ) (w : Workspace σ) (doc : DocumentView)
    (during : List EditorEvent) : LintResult × DocumentView × Workspace σ :=
  let (lint?, session, files) := w.session.begin w.files doc
  let w := { w with session, files }
  match lint? with
  | none => (.ok none, doc, w)
  | some lint =>
    match lint.stage with
    | .checked _ => (lint.conclude doc, doc, w)
    | .running invocation =>
      let now := during.foldl (fun doc event => event.onDocument doc) doc
      let session := during.foldl (fun session event => event.onSession session) w.session
      let (result, state) := checker w.checker w.files invocation.plan
      let (lint, files) := lint.receive w.files result
      (lint.conclude now, now, { session, files, checker := state })

end Workspace

end LintHost
