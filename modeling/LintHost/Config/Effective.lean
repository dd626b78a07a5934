import LintHost.Config.Command
import LintHost.Config.Ini
import LintHost.Config.Settings

/-!
# The effective configuration

What one lint runs with: the settings, changed by the project's configuration file. A file
can say two things to the linter. Its own section may name directories, which come before
those of the settings; and a project that says anything about incremental mode in the
checker's section keeps control of it, so the linter does not ask for it.

The words of the command are stored as the executable and the rest, so that there always is
an executable.
-/

namespace LintHost

/-- The configuration of a lint. -/
structure EffectiveConfig where
  /-- The first word of the command. -/
  executable : String
  /-- The words after the first. -/
  baseArguments : List String
  /-- Directories in which the checker looks for modules, with colons between them. -/
  searchPath : String
  /-- Whether the linter asks for incremental mode. -/
  incremental : Bool
  /-- The setting for the cache directory. -/
  cacheDirectory : String
  /-- The project's configuration file, if one was applied. -/
  configFile : Option Path
deriving DecidableEq, Inhabited

namespace EffectiveConfig

/-- The section of a configuration file that speaks to the linter. -/
def linterSection : String := "mypy_lint"

/-- The key in it that names directories to look for modules in. -/
def searchPathKey : String := "mypypath"

/-- The section of a configuration file that speaks to the checker. -/
def checkerSection : String := "mypy"

/-- The key in it that decides about incremental mode. -/
def incrementalKey : String := "incremental"

/-- The words of the command. -/
def command (config : EffectiveConfig) : List String :=
  config.executable :: config.baseArguments

/-- The configuration of the settings alone. -/
def ofSettings (settings : Settings) : Except ConfigError EffectiveConfig := do
  match ← Command.parse settings.mypyCommand with
  | [] => throw .emptyCommand
  | executable :: baseArguments =>
    return { executable, baseArguments,
             searchPath := settings.envMypyPath,
             incremental := settings.incrementalMode,
             cacheDirectory := settings.incrementalCacheDirectory,
             configFile := none }

/-- Directories put in front of others. -/
def prepend (front searchPath : String) : String :=
  if searchPath = "" then front else front ++ ":" ++ searchPath

/-- The configuration changed by the file at `path`. -/
def applyProject (config : EffectiveConfig) (path : Path) (doc : Ini.Document) :
    EffectiveConfig :=
  { config with
    searchPath :=
      match doc.get? linterSection searchPathKey with
      | some front => prepend front config.searchPath
      | none => config.searchPath
    incremental := config.incremental && !doc.hasKey checkerSection incrementalKey
    configFile := some path }

end EffectiveConfig

end LintHost
