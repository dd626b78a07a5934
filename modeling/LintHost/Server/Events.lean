import LintHost.Config.Finder
import LintHost.Config.Settings
import LintHost.Uri

/-!
# What a notification means

The small decisions of the language server: which part of a payload holds settings, which
document events start a lint, and which files decide about the configuration.
-/

namespace LintHost

/-! ### Settings in payloads -/

/-- The member of a payload that holds the settings of this server. -/
def settingsSection : String := "mypyLint"

/-- The settings in a payload of changed configuration; a payload without them belongs to
others. -/
def configurationSettings (payload : Json) : Option Json :=
  (payload.member? settingsSection).filter fun value => !value.isNull

/-- The settings in the options of a client that starts: their own member, or the options
themselves if they are settings and nothing else. -/
def initializationSettings (options : Json) : Option Json :=
  match configurationSettings options with
  | some value => some value
  | none => if Settings.isSettingsObject options then some options else none

/-! ### Lints -/

/-- What happens to a document. -/
inductive DocumentEvent where
  | opened
  | changed
  | saved
deriving DecidableEq, Inhabited

/-- Whether an event starts a lint: a change only if the settings ask for it. -/
def shouldLint : DocumentEvent → Settings → Bool
  | .changed, settings => settings.lintOnChange
  | _, _ => true

/-! ### Configuration files -/

/-- Whether a path, if there is one, is that of a configuration file. -/
def isProjectConfig (finder : Finder) (path : Option Path) : Bool :=
  match path with
  | some path => finder.isConfigFile path
  | none => false

/-- Whether one of the files that changed is a configuration file. -/
def touchesProjectConfig (finder : Finder) (uris : List Uri) : Bool :=
  uris.any fun uri => isProjectConfig finder uri.filePath?

end LintHost
