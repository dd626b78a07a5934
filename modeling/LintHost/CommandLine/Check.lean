import LintHost.CommandLine.Options
import LintHost.Session

/-!
# Linting one file from the command line

The file is named relative to the current directory, and `.` and `..` are resolved by the
spelling, so that the configuration file and the project root are looked for where the file
really is. A text on standard input stands for unsaved changes if it differs from the file's.
-/

namespace LintHost

/-- The document to lint: the text from standard input against what is on disk, or else the
file itself, which then has to be readable. -/
def checkDocument (fs : FileSystem) (path : Path) : Option String → Except LintError Buffer
  | some text => .ok (.edited path text (fs.readText path).toOption)
  | none =>
    match fs.readText path with
    | .ok text => .ok (.saved path text)
    | .error cause => .error (.unreadableSource path cause)

/-- Lints one file, with the current directory as the only project root. -/
def checkFile {σ : Type} (checker : Checker σ) (state : σ) (fs : FileSystem)
    (options : CheckOptions) (currentDirectory : Path) (stdin : Option String) :
    Except LintError (List Diagnostic) × FileSystem × σ :=
  let path := Path.normalize currentDirectory options.file
  match checkDocument fs path stdin with
  | .error e => (.error e, fs, state)
  | .ok buffer =>
    let w : Workspace σ :=
      { session := { settings := ⟨options.settings⟩, roots := ⟨[currentDirectory]⟩ }
        files := fs
        checker := state }
    let (result, _, w) := w.lint checker buffer.view []
    (result.map (·.getD []), w.files, w.checker)

end LintHost
