import LintHost.Config.Resolve

/-!
# Running the checker once

A run of the checker is prepared, takes place, and is concluded. `Invocation.prepare` works
out the arguments and, for a buffer with unsaved changes, writes the buffer to a temporary
*shadow file*, which the checker reads in place of the real one. `Invocation.conclude` takes
what came of the process, removes the shadow file whatever that was, and tells a report from
a failure: any output on the error stream is a failure, whatever the exit status, since the
checker exits with the same status when it finds errors and when it cannot run.

What happens in between is not said here: the process may print what it likes.
-/

namespace LintHost

/-! ### What goes in and what comes out -/

/-- The file to check. -/
structure CheckTarget where
  path : Path
  /-- The text of the buffer. -/
  content : String
  /-- Whether the buffer differs from the file. -/
  isModified : Bool
deriving DecidableEq, Inhabited

/-- All that is needed to start the checker. Of the environment only what is set for it. -/
structure Plan where
  executable : String
  arguments : List String
  workingDirectory : Path
  environment : List (String × String)
deriving DecidableEq, Inhabited

/-- What a finished process leaves. -/
structure RawResult where
  /-- The exit status; none if a signal ended the process. -/
  exitCode : Option Int := some 0
  stdout : String := ""
  stderr : String := ""
deriving DecidableEq, Inhabited

/-- What was run and what came of it. -/
structure InvocationRecord where
  config : EffectiveConfig
  plan : Plan
  /-- Whether unsaved text was checked through a shadow file. -/
  shadowed : Bool
  result : RawResult
deriving DecidableEq, Inhabited

/-- Why a run has no report. -/
inductive InvokeError where
  /-- The configuration gives no arguments. -/
  | config (error : ConfigError)
  /-- The checker ran and complained on its error stream. -/
  | tool (record : InvocationRecord)
  /-- The shadow file cannot be written. -/
  | shadowFile (cause : SystemError)
  /-- The process cannot be started. -/
  | spawn (executable : String) (cause : SystemError)
deriving Inhabited

namespace InvokeError

/-- The message for a checker that failed. -/
def toolMessage : String :=
  "mypy failed to check this file; see the details below"

/-- The message, with the given words for a failure of the system. -/
def messageWith (words : SystemError → String) : InvokeError → String
  | .config error => error.messageWith words
  | .tool _ => toolMessage
  | .shadowFile cause => "failed to write shadow file: " ++ words cause
  | .spawn executable cause => "failed to run `" ++ executable ++ "`: " ++ words cause

end InvokeError

/-! ### Preparing a run -/

/-- A run that has been prepared. -/
structure Invocation where
  config : EffectiveConfig
  plan : Plan
  /-- The shadow file that is there while the checker runs. -/
  shadow : Option FileSystem.TemporaryFile
deriving DecidableEq, Inhabited

namespace Invocation

/-- The name of the shadow file of a path without a file name. -/
def fallbackName : String := "buffer.py"

/-- The arguments of a run: those of the command, column numbers, the real file and the
shadow file if there is one, the options for incremental mode, and last the real file. -/
def arguments (config : EffectiveConfig) (file : Path) (shadow cache : Option Path) :
    List String :=
  config.baseArguments ++ ["--show-column-numbers"] ++
    (match shadow with
      | some shadow => ["--shadow-file", file.text, shadow.text]
      | none => []) ++
    (match cache with
      | some cache => ["--incremental", "--cache-dir", cache.text]
      | none => []) ++
    [file.text]

/-- The plan of a run. -/
def planOf (config : EffectiveConfig) (file : Path) (shadow cache : Option Path)
    (workingDirectory : Path) : Plan where
  executable := config.executable
  arguments := arguments config file shadow cache
  workingDirectory := workingDirectory
  environment := [("MYPYPATH", config.searchPath)]

/-- The cache directory of a run, if it is to keep a cache. -/
def cachePath (config : EffectiveConfig) (workingDirectory : Path) :
    Except InvokeError (Option Path) :=
  if config.incremental then
    match cacheDirectory config workingDirectory with
    | .ok path => .ok (some path)
    | .error e => .error (.config e)
  else .ok none

/-- The shadow file of a target with unsaved changes, which has the real file's name, and
the file system with it. -/
def shadowOf (fs : FileSystem) (target : CheckTarget) :
    Except InvokeError (FileSystem × Option FileSystem.TemporaryFile) :=
  if target.isModified then
    match fs.createTemporary (target.path.fileName?.getD fallbackName) target.content with
    | .ok (fs, file) => .ok (fs, some file)
    | .error cause => .error (.shadowFile cause)
  else .ok (fs, none)

/-- Prepares a run. The cache directory is worked out before the shadow file is written. -/
def prepare (fs : FileSystem) (target : CheckTarget) (config : EffectiveConfig)
    (workingDirectory : Path) : Except InvokeError (FileSystem × Invocation) := do
  let cache ← cachePath config workingDirectory
  let (fs, shadow) ← shadowOf fs target
  return (fs, { config, shadow,
                plan := planOf config target.path (shadow.map (·.path)) cache workingDirectory })

/-! ### Concluding a run -/

/-- The file system without the shadow file. -/
def cleanUp (invocation : Invocation) (fs : FileSystem) : FileSystem :=
  match invocation.shadow with
  | some file => fs.removeTree file.directory
  | none => fs

/-- What came of the run. -/
def outcome (invocation : Invocation) :
    Except SystemError RawResult → Except InvokeError InvocationRecord
  | .error cause => .error (.spawn invocation.plan.executable cause)
  | .ok result =>
    let record : InvocationRecord :=
      { config := invocation.config, plan := invocation.plan,
        shadowed := invocation.shadow.isSome, result }
    if result.stderr = "" then .ok record else .error (.tool record)

/-- Concludes a run: what came of it, and the file system without the shadow file. -/
def conclude (invocation : Invocation) (fs : FileSystem) (result : Except SystemError RawResult) :
    Except InvokeError InvocationRecord × FileSystem :=
  (invocation.outcome result, invocation.cleanUp fs)

end Invocation

end LintHost
