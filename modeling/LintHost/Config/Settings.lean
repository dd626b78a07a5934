import LintHost.Config.Error

/-!
# Settings

The settings of an editor are a snapshot that a lint reads once and uses throughout; a
change puts a new snapshot in place of the old one.

Settings come from outside as JSON. `Settings.ofJson` reads an object by its keys, and an
array by position; what is missing takes its default, and a key that is present has to have
the right type. `Settings.toJson` writes all keys.
-/

namespace LintHost

/-- The settings that hold for all files. -/
structure Settings where
  /-- Lint while typing, and not only when a file is opened or saved. -/
  lintOnChange : Bool := true
  /-- The command that runs the checker, in the quoting of a shell. -/
  mypyCommand : String := "python3 -m mypy"
  /-- Directories in which the checker looks for modules. -/
  envMypyPath : String := ""
  /-- Let the checker keep a cache between runs. -/
  incrementalMode : Bool := false
  /-- Where the cache is: below each project, or for an absolute path in one directory for
  each project below it. -/
  incrementalCacheDirectory : String := "/tmp/mypy-lint"
  /-- Log what every lint does. -/
  debug : Bool := false
deriving DecidableEq, Inhabited

namespace Settings

/-! ### Reading -/

/-- A switch, or its default if it is missing. -/
def switch (default : Bool) : Option Json → Except ConfigError Bool
  | none => .ok default
  | some (.bool value) => .ok value
  | some got => .error (.invalidSettings (.notSwitch got))

/-- A text, or its default if it is missing. -/
def text (default : String) : Option Json → Except ConfigError String
  | none => .ok default
  | some (.string value) => .ok value
  | some got => .error (.invalidSettings (.notText got))

/-- The keys of the settings. -/
def keys : List String :=
  ["lintOnChange", "mypyCommand", "envMypyPath", "incrementalMode",
    "incrementalCacheDirectory", "debug"]

/-- The settings that the members of an object give. The keys are looked at in alphabetical
order, so of two wrong values the one with the smaller key is reported. -/
def ofMembers (member? : String → Option Json) : Except ConfigError Settings := do
  let defaults : Settings := {}
  let debug ← switch defaults.debug (member? "debug")
  let envMypyPath ← text defaults.envMypyPath (member? "envMypyPath")
  let incrementalCacheDirectory ←
    text defaults.incrementalCacheDirectory (member? "incrementalCacheDirectory")
  let incrementalMode ← switch defaults.incrementalMode (member? "incrementalMode")
  let lintOnChange ← switch defaults.lintOnChange (member? "lintOnChange")
  let mypyCommand ← text defaults.mypyCommand (member? "mypyCommand")
  return { lintOnChange, mypyCommand, envMypyPath, incrementalMode, incrementalCacheDirectory,
           debug }

/-- The settings that the items of an array give, in the order of `keys`. -/
def ofItems (items : List Json) : Except ConfigError Settings := do
  let defaults : Settings := {}
  let lintOnChange ← switch defaults.lintOnChange items[0]?
  let mypyCommand ← text defaults.mypyCommand items[1]?
  let envMypyPath ← text defaults.envMypyPath items[2]?
  let incrementalMode ← switch defaults.incrementalMode items[3]?
  let incrementalCacheDirectory ← text defaults.incrementalCacheDirectory items[4]?
  let debug ← switch defaults.debug items[5]?
  if keys.length < items.length then
    throw (.invalidSettings (.tooManyItems items.length))
  return { lintOnChange, mypyCommand, envMypyPath, incrementalMode, incrementalCacheDirectory,
           debug }

/-- The settings that a JSON value gives; `null` gives the defaults. -/
def ofJson : Json → Except ConfigError Settings
  | .null => .ok {}
  | .object members => ofMembers fun key => Json.lastOf? key members
  | .array items => ofItems items
  | got => .error (.invalidSettings (.notSettings got))

/-- Whether a value is an object that has members and only settings among them. -/
def isSettingsObject : Json → Bool
  | .object members => !members.isEmpty && members.all fun m => keys.contains m.1
  | _ => false

/-! ### Writing -/

/-- The settings as a JSON object with all keys. -/
def toJson (s : Settings) : Json :=
  .object [
    ("lintOnChange", .bool s.lintOnChange),
    ("mypyCommand", .string s.mypyCommand),
    ("envMypyPath", .string s.envMypyPath),
    ("incrementalMode", .bool s.incrementalMode),
    ("incrementalCacheDirectory", .string s.incrementalCacheDirectory),
    ("debug", .bool s.debug)]

end Settings

/-! ### The current snapshot -/

/-- The holder of the current settings. -/
structure SettingsStore where
  current : Settings := {}
deriving DecidableEq, Inhabited

namespace SettingsStore

/-- The store with other settings. -/
def replace (_ : SettingsStore) (settings : Settings) : SettingsStore :=
  ⟨settings⟩

/-- Reads new settings from JSON and puts them in place; on an error the current ones stay. -/
def update (store : SettingsStore) (value : Json) : Except ConfigError Settings × SettingsStore :=
  match Settings.ofJson value with
  | .ok settings => (.ok settings, store.replace settings)
  | .error e => (.error e, store)

end SettingsStore

end LintHost
