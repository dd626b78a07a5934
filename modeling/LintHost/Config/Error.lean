import LintHost.FileSystem
import LintHost.Json

/-!
# Configuration errors

Why the configuration for a lint could not be worked out. Each cause is a constructor; the
wording is in one function, `ConfigError.messageWith`, which takes the words for a failure of
the system as an argument, so that a message can be compared apart from them.
-/

namespace LintHost

/-- What is wrong with a command that does not split into plain words. -/
inductive CommandFault where
  /-- A quote is not closed, or a backslash ends the text. -/
  | unbalanced
  /-- A word is an operator of the shell, which is not there to interpret it. -/
  | shellOperator
deriving DecidableEq, Inhabited

/-- The wording of a fault in a command. -/
def CommandFault.message : CommandFault → String
  | .unbalanced => "unbalanced quotes or trailing escape"
  | .shellOperator => "shell operators are not supported"

/-- What is wrong with a JSON value that should hold settings. -/
inductive SettingsFault where
  /-- The value is neither an object nor an array. -/
  | notSettings (got : Json)
  /-- A switch is set to something else than true or false. -/
  | notSwitch (got : Json)
  /-- A text setting is set to something else than a text. -/
  | notText (got : Json)
  /-- An array has more items than there are settings. -/
  | tooManyItems (count : Nat)
deriving Inhabited

/-- The wording of a fault in settings. -/
def SettingsFault.message : SettingsFault → String
  | .notSettings got => "invalid type: " ++ got.describe ++ ", expected struct Settings"
  | .notSwitch got => "invalid type: " ++ got.describe ++ ", expected a boolean"
  | .notText got => "invalid type: " ++ got.describe ++ ", expected a string"
  | .tooManyItems count =>
    "invalid length " ++ Nat.repr count ++ ", expected fewer elements in array"

/-- Why there is no configuration for a lint. -/
inductive ConfigError where
  /-- The command setting does not split into plain words. -/
  | invalidCommand (command : String) (fault : CommandFault)
  /-- The command setting has no words. -/
  | emptyCommand
  /-- The checker should keep a cache, but the setting for its directory is empty. -/
  | emptyCacheDirectory
  /-- Settings from outside have the wrong shape. -/
  | invalidSettings (fault : SettingsFault)
  /-- The configuration file that was found cannot be read. -/
  | unreadable (path : Path) (cause : SystemError)
deriving Inhabited

namespace ConfigError

/-- The message, with the given words for a failure of the system. -/
def messageWith (words : SystemError → String) : ConfigError → String
  | .invalidCommand command fault =>
    "invalid mypy command `" ++ command ++ "`: " ++ fault.message
  | .emptyCommand => "mypy command is empty"
  | .emptyCacheDirectory => "cache directory path is empty"
  | .invalidSettings fault => "invalid settings: " ++ fault.message
  | .unreadable path cause => "failed to read config file " ++ path.text ++ ": " ++ words cause

/-- The message. -/
def message : ConfigError → String :=
  messageWith SystemError.message

/-- Whether the user can mend the cause in the settings. -/
def isUserFacing : ConfigError → Bool
  | .invalidCommand .. => true
  | _ => false

end ConfigError

end LintHost
