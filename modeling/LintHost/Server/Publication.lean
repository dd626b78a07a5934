import LintHost.Diagnostic
import LintHost.Json
import LintHost.Text.Utf16

/-!
# Published diagnostics

A diagnostic in the form in which an editor is sent it. Columns are counted in UTF-16 code
units of the line they are in; a position on a line that the buffer does not have keeps its
column. The description follows the message after an empty line.
-/

namespace LintHost

/-- A diagnostic as an editor shows it, with columns in UTF-16 code units. -/
structure PublishedDiagnostic where
  range : Range
  severity : Severity
  message : String
deriving DecidableEq, Inhabited

namespace PublishedDiagnostic

/-- A position with its column in UTF-16 code units. -/
def position (lines : SourceLines) (p : Position) : Position :=
  match lines.lineChars? p.line with
  | some line => { p with character := Text.utf16Column line p.character }
  | none => p

/-- The message with the description after it. -/
def fullMessage (d : Diagnostic) : String :=
  match d.description with
  | some description => d.message ++ "\n\n" ++ description
  | none => d.message

/-- The form of a diagnostic for an editor, given the lines that it is about. -/
def ofDiagnostic (lines : SourceLines) (d : Diagnostic) : PublishedDiagnostic where
  range := ⟨position lines d.range.start, position lines d.range.stop⟩
  severity := d.severity
  message := fullMessage d

/-- The number of a severity in the protocol of editors. -/
def severityNumber : Severity → Nat
  | .error => 1
  | .warning => 2
  | .info => 3

/-- The name that an editor shows for the origin of a diagnostic. -/
def source : String := "mypy"

/-- A position as JSON. -/
def positionJson (p : Position) : Json :=
  .object [("line", .ofNat p.line), ("character", .ofNat p.character)]

/-- A published diagnostic as JSON. -/
def toJson (d : PublishedDiagnostic) : Json :=
  .object [
    ("range", .object [("start", positionJson d.range.start), ("end", positionJson d.range.stop)]),
    ("severity", .ofNat (severityNumber d.severity)),
    ("source", .string source),
    ("message", .string d.message)]

end PublishedDiagnostic

end LintHost
