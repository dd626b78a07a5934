import LintHost.CommandLine.Program
import LintHost.Shell.Run

/-!
# The `mypy-lint` command

The program of `LintHost.Program` with real arguments, streams and files. The checker is the
small shell of the library. It and the lint see a picture of the files, taken at the start:
the file that is linted, the configuration files above it, and the files whose names occur in
the command that runs the checker.
-/

namespace LintHost.Main

/-- The words of a command that can be names of files. -/
def namesIn (command : String) : List String :=
  (command.splitToList fun c => c.isWhitespace || "'\"\\;|&<>()".toList.contains c).filter
    fun word => word ≠ ""

/-- Adds a file to a picture, if it can be read. -/
def addFile (fs : FileSystem) (path : Path) : IO FileSystem := do
  try
    let bytes ← IO.FS.readBinFile path.text
    return fs.writeFile path (.ofBytes bytes.toList)
  catch _ => return fs

/-- The picture of the files for a run in a directory with some options. -/
def picture (directory : Path) (options : CheckOptions) : IO FileSystem := do
  let file := Path.normalize directory options.file
  let named := (namesIn (options.command.getD "")).map fun name => directory.join ⟨name⟩
  let start : FileSystem := { entries := [(["tmp"], .directory)] }
  let start := start.makeDirectory directory
  let fs ← (file :: Finder.candidates configFileNames file ++ named).foldlM addFile start
  return { fs with current := fs.intended directory }

end LintHost.Main

open LintHost in
/-- Runs the program. -/
def main (arguments : List String) : IO UInt32 := do
  let directory : Path := ⟨(← IO.currentDir).toString⟩
  let options := (CheckOptions.parse (arguments.drop 1)).toOption
  let fs ← Main.picture directory (options.getD default)
  let stdin : Content ←
    if options.any (·.stdin) then
      pure (.ofBytes (← (← IO.getStdin).readBinToEnd).toList)
    else pure (.text "")
  let stdout ← IO.getStdout
  let exit := Program.run Shell.checker () fs directory stdin (← stdout.isTty) arguments
  stdout.putStr exit.stdout
  (← IO.getStderr).putStr exit.stderr
  return UInt32.ofNat exit.status
