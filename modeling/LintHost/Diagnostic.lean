import LintHost.Path
import LintHost.SourceLines

/-!
# Diagnostics

What a lint hands back: a severity, a file, a position with the range to highlight, a short
message and perhaps a longer description. Lines and columns count from 0, columns count
characters, and a range excludes its end.

The range of a finding is computed from the buffer by `highlight`: from the reported column
to the end of the next word, so that the name that an error is about is marked whole.
-/

namespace LintHost

/-! ### Severity and position -/

/-- How serious a finding is. -/
inductive Severity where
  | error
  | warning
  | info
deriving DecidableEq, Inhabited

namespace Severity

/-- The severity that a label of the checker's report stands for. A note has no counterpart
of its own and is informational. -/
def ofLabel? : String → Option Severity
  | "error" => some .error
  | "warning" => some .warning
  | "note" => some .info
  | _ => none

/-- The word for the severity. -/
def word : Severity → String
  | .error => "error"
  | .warning => "warning"
  | .info => "info"

end Severity

/-- A line and a character in it, both from 0. -/
structure Position where
  line : Nat
  character : Nat
deriving DecidableEq, Inhabited

/-- The characters from `start` up to but not including `stop`. -/
structure Range where
  start : Position
  stop : Position
deriving DecidableEq, Inhabited

/-- The range over the `length` characters of a line. -/
def Range.wholeLine (line length : Nat) : Range :=
  ⟨⟨line, 0⟩, ⟨line, length⟩⟩

/-! ### Highlighting -/

/-- The characters of a word: ASCII letters and digits, the underscore and the dollar. -/
def isWordChar (c : Char) : Bool :=
  c.isAlphanum || c == '_' || c == '$'

/-- The length of the text up to the end of its first word, and of the whole text if it
has no word. -/
def firstWordEnd (cs : List Char) : Nat :=
  let gap := cs.takeWhile fun c => !isWordChar c
  let word := (cs.dropWhile fun c => !isWordChar c).takeWhile isWordChar
  gap.length + word.length

/-- The range to highlight for a finding: the whole line without a column; with one, from
the column, or the line's end if that comes first, to the end of the next word. Computed in
32 bits, where the length of the line stops at 2³² - 1, it would be another one for a line of
2³² characters or more. -/
def highlight (lines : SourceLines) (line : Nat) (column : Option Nat) : Range :=
  let cs := (lines.lineChars? line).getD []
  match column with
  | none => .wholeLine line cs.length
  | some column =>
    let column := min column cs.length
    ⟨⟨line, column⟩, ⟨line, column + firstWordEnd (cs.drop column)⟩⟩

/-! ### Diagnostics -/

/-- A finding about one file. -/
structure Diagnostic where
  severity : Severity
  file : Path
  line : Nat := 0
  column : Option Nat := none
  range : Range := ⟨⟨0, 0⟩, ⟨0, 0⟩⟩
  message : String
  description : Option String := none
deriving DecidableEq, Inhabited

namespace Diagnostic

/-- The diagnostic placed at a line and perhaps a column, with the range to highlight. -/
def located (d : Diagnostic) (line : Nat) (column : Option Nat) (lines : SourceLines) :
    Diagnostic :=
  { d with line, column, range := highlight lines line column }

/-- The text of a fenced block around `details`, which stand in it as they are. -/
def fenced (details : String) : String :=
  "```\n" ++ details ++ "\n```"

/-- The diagnostic that stands for a checker that failed: an error on the whole first line
with the details in a fenced block. -/
def toolFailure (file : Path) (message details : String) (lines : SourceLines) : Diagnostic :=
  { ({ severity := .error, file, message : Diagnostic }.located 0 none lines) with
    description := some (fenced details) }

/-- Whether the finding is an error. -/
def isError (d : Diagnostic) : Bool :=
  d.severity == .error

/-- Whether the finding is a warning. -/
def isWarning (d : Diagnostic) : Bool :=
  d.severity == .warning

/-- Where the finding is, counted from 1: the path, the line and the column if it is known,
with colons between them. -/
def place (d : Diagnostic) : String :=
  d.file.text ++ ":" ++ Nat.repr (d.line + 1) ++
    match d.column with
    | some column => ":" ++ Nat.repr (column + 1)
    | none => ""

/-- The finding on one line, in the checker's own form. -/
def display (d : Diagnostic) : String :=
  d.place ++ ": " ++ d.severity.word ++ ": " ++ d.message

end Diagnostic

end LintHost
