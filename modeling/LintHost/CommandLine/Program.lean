import LintHost.CommandLine.Check

/-!
# The command-line program

`mypy-lint` as a function: from its arguments, standard input, the files and a checker to its
exit status and what it prints on its two output streams. The status is 1 when the arguments
are wrong, the lint fails, or a finding is an error.
-/

namespace LintHost

namespace Program

/-- What a program leaves when it ends. -/
structure Exit where
  status : Nat := 0
  stdout : String := ""
  stderr : String := ""
deriving DecidableEq, Inhabited

/-- The version of the program. -/
def version : String := "0.1.0-alpha.1"

/-- The lines of a text, each ended. -/
def paragraph (lines : List String) : String :=
  String.join (lines.map (· ++ "\n"))

/-- The options of the `check` command. -/
def optionsHelp : String :=
  paragraph [
    "Options:",
    "  --stdin              Lint the content read from stdin as unsaved changes",
    "  --command=<cmd>      Command used to run mypy (default: python3 -m mypy)",
    "  --mypypath=<path>    Value for MYPYPATH",
    "  --incremental        Run mypy in incremental mode",
    "  --cache-dir=<dir>    Cache directory for incremental mode",
    "  --format=<format>    Output format: text, json (default: text)",
    "  --debug              Log each lint step to stderr"]

/-- How to use the program. -/
def usage : String :=
  paragraph [
    "mypy-lint - editor diagnostics from mypy",
    "",
    "Usage: mypy-lint <command> [options]",
    "",
    "Commands:",
    "  check <file.py>    Type-check a file and print diagnostics",
    "  help               Show this help message",
    "  version            Show version information",
    ""] ++ optionsHelp

/-- How to use the `check` command. -/
def checkUsage : String :=
  paragraph ["Usage: mypy-lint check <file.py> [options]", ""] ++ optionsHelp

/-- Ends with an error message. -/
def fail (message : String) : Exit :=
  { status := 1, stderr := "error: " ++ message ++ "\n" }

/-- The `check` command, given its arguments. -/
def check {σ : Type} (checker : Checker σ) (state : σ) (fs : FileSystem)
    (currentDirectory : Path) (stdin : Content) (isTerminal : Bool) (arguments : List String) :
    Exit :=
  match CheckOptions.parse arguments with
  | .error e =>
    let exit := fail e.message
    { exit with stderr := exit.stderr ++ "\n" ++ checkUsage }
  | .ok options =>
    match options.stdin, stdin with
    | true, .binary _ => fail ("failed to read stdin: " ++ SystemError.invalidUtf8.message)
    | true, .text text => report options (some text)
    | false, _ => report options none
where
  /-- Lints with options that could be read, and prints the report. -/
  report (options : CheckOptions) (stdin : Option String) : Exit :=
    match (checkFile checker state fs options currentDirectory stdin).1 with
    | .error e => fail e.message
    | .ok diagnostics =>
      { status := if diagnostics.any Diagnostic.isError then 1 else 0
        stdout := renderReport diagnostics options.format isTerminal }

/-- The whole program. -/
def run {σ : Type} (checker : Checker σ) (state : σ) (fs : FileSystem)
    (currentDirectory : Path) (stdin : Content) (isTerminal : Bool) : List String → Exit
  | [] => { stdout := usage }
  | command :: arguments =>
    if command = "check" then
      check checker state fs currentDirectory stdin isTerminal arguments
    else if ["help", "--help", "-h"].contains command then { stdout := usage }
    else if ["version", "--version", "-V"].contains command then
      { stdout := "mypy-lint " ++ version ++ "\n" }
    else
      { status := 1, stdout := usage, stderr := "Unknown command: " ++ command ++ "\n\n" }

end Program

end LintHost
