import LintHost.Config.Settings
import LintHost.Rendering

/-!
# Command-line options

The arguments of the `check` command: one file, and options in any order, of which the last
occurrence counts. `CheckOptions.parse` takes the arguments one after the other and stops at
the first that it cannot use; only when all are taken is a missing file an error.
-/

namespace LintHost

/-- The options of the `check` command. What is not set falls back to the settings' default. -/
structure CheckOptions where
  file : Path := ⟨""⟩
  /-- Lint the text on standard input in place of the file's. -/
  stdin : Bool := false
  command : Option String := none
  mypypath : Option String := none
  incremental : Bool := false
  cacheDirectory : Option String := none
  format : OutputFormat := .text
  debug : Bool := false
deriving DecidableEq, Inhabited

/-- What is wrong with the arguments. -/
inductive UsageError where
  | unknownFormat (format : String)
  | unknownOption (argument : String)
  | unexpectedArgument (argument : String)
  | missingFile
deriving DecidableEq, Inhabited

/-- The wording of an error in the arguments. -/
def UsageError.message : UsageError → String
  | .unknownFormat format => "unknown format '" ++ format ++ "' (expected text or json)"
  | .unknownOption argument => "unknown option '" ++ argument ++ "'"
  | .unexpectedArgument argument => "unexpected argument '" ++ argument ++ "'"
  | .missingFile => "missing file path"

/-- One argument by its form. -/
inductive Argument where
  | stdin
  | incremental
  | debug
  | command (value : String)
  | mypypath (value : String)
  | cacheDirectory (value : String)
  | format (value : String)
  /-- An argument that starts with a hyphen and is none of the options. -/
  | unknown (text : String)
  /-- An argument that does not start with a hyphen. -/
  | file (text : String)
deriving DecidableEq, Inhabited

namespace Argument

/-- What follows the opening of a text, if the text starts with it. -/
def after? (opening text : String) : Option String :=
  if opening.toList.isPrefixOf text.toList then
    some (String.ofList (text.toList.drop opening.toList.length))
  else none

/-- The options that take a value, each with what it starts with. -/
def valued : List (String × (String → Argument)) :=
  [("--command=", command), ("--mypypath=", mypypath), ("--cache-dir=", cacheDirectory),
    ("--format=", format)]

/-- The form of an argument. -/
def ofText (text : String) : Argument :=
  if text = "--stdin" then stdin
  else if text = "--incremental" then incremental
  else if text = "--debug" then debug
  else match valued.findSome? fun option => (after? option.1 text).map option.2 with
    | some argument => argument
    | none => if text.toList.head? = some '-' then unknown text else file text

end Argument

namespace CheckOptions

/-- The format of a name. -/
def formatOf? : String → Option OutputFormat
  | "text" => some .text
  | "json" => some .json
  | _ => none

/-- The options after one more argument; the file is kept apart until all are taken. -/
def take (options : CheckOptions × Option Path) : Argument →
    Except UsageError (CheckOptions × Option Path)
  | .stdin => .ok ({ options.1 with stdin := true }, options.2)
  | .incremental => .ok ({ options.1 with incremental := true }, options.2)
  | .debug => .ok ({ options.1 with debug := true }, options.2)
  | .command value => .ok ({ options.1 with command := some value }, options.2)
  | .mypypath value => .ok ({ options.1 with mypypath := some value }, options.2)
  | .cacheDirectory value => .ok ({ options.1 with cacheDirectory := some value }, options.2)
  | .format value =>
    match formatOf? value with
    | some format => .ok ({ options.1 with format }, options.2)
    | none => .error (.unknownFormat value)
  | .unknown text => .error (.unknownOption text)
  | .file text =>
    match options.2 with
    | none => .ok (options.1, some ⟨text⟩)
    | some _ => .error (.unexpectedArgument text)

/-- The options that the arguments after `check` give. -/
def parse (arguments : List String) : Except UsageError CheckOptions := do
  let (options, file) ← (arguments.map Argument.ofText).foldlM take ({}, none)
  match file with
  | some file => return { options with file }
  | none => throw .missingFile

/-- The settings of a run with the options. -/
def settings (options : CheckOptions) : Settings :=
  let defaults : Settings := {}
  { lintOnChange := false
    mypyCommand := options.command.getD defaults.mypyCommand
    envMypyPath := options.mypypath.getD defaults.envMypyPath
    incrementalMode := options.incremental
    incrementalCacheDirectory :=
      options.cacheDirectory.getD defaults.incrementalCacheDirectory
    debug := options.debug }

end CheckOptions

end LintHost
