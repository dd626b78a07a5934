import LintHost.Diagnostic

/-!
# The checker's report

The checker prints one finding to a line: a path, a line number, perhaps a column, a label
and a message.

```text
pkg/mod.py:12:5: error: Incompatible types in assignment
pkg/mod.py:30: note: Revealed type is "builtins.int"
```

Lines count from 1 and columns from 0. A report mentions other files too, so a line counts
only if it starts with one of the two spellings of the linted file, relative to the
directory the checker ran in or as it was given, and a colon. `ReportParser.classify` sorts
a line into foreign, malformed or an entry, and `ReportParser.parse` turns the entries into
diagnostics, with every position pulled into the buffer.
-/

namespace LintHost

/-! ### Reading one line -/

/-- A finding in the report's own coordinates, the line counted from 0. -/
structure ReportEntry where
  line : Nat
  column : Option Nat
  severity : Severity
  message : String
deriving DecidableEq, Inhabited

/-- What a line of a report is. -/
inductive ReportLine where
  /-- Not about the linted file. -/
  | foreign
  /-- About the linted file but not of the expected form; holds what follows the path. -/
  | malformed (tail : String)
  /-- A finding about the linted file. -/
  | entry (entry : ReportEntry)
deriving DecidableEq, Inhabited

namespace ReportEntry

/-- The numbers that a report may hold are those below 2³². -/
def numberLimit : Nat := 0x100000000

/-- The number that a text spells: one or more decimal digits, below the limit. -/
def number? (cs : List Char) : Option Nat :=
  if cs ≠ [] ∧ cs.all Char.isDigit then
    let n := Nat.ofDigitChars 10 cs 0
    if n < numberLimit then some n else none
  else none

/-- The digits at the start of a text, and what follows the colon right after them. -/
def digitsThenColon (cs : List Char) : Option (List Char × List Char) :=
  match cs.dropWhile Char.isDigit with
  | ':' :: rest => some (cs.takeWhile Char.isDigit, rest)
  | _ => none

/-- The labels that a report uses. -/
def labels : List String := ["error", "warning", "note"]

/-- The severity and the message of a text that is a blank, a label, a colon, a blank and
a message of one line. -/
def labelled? (cs : List Char) : Option (Severity × String) :=
  labels.findSome? fun label => do
    let severity ← Severity.ofLabel? label
    let opening := ' ' :: label.toList ++ [':', ' ']
    let message := cs.drop opening.length
    if opening.isPrefixOf cs ∧ '\n' ∉ message then
      some (severity, String.ofList message)
    else none

/-- Reads what follows the path: a colon, a line number from 1, a colon, perhaps a column
and another colon, and then the label and the message. -/
def read? (tail : List Char) : Option ReportEntry := do
  match tail with
  | ':' :: rest =>
    let (digits, rest) ← digitsThenColon rest
    let number ← number? digits
    if number = 0 then none
    else match digitsThenColon rest with
      | some (digits, rest) =>
        let column ← number? digits
        let (severity, message) ← labelled? rest
        some ⟨number - 1, some column, severity, message⟩
      | none =>
        let (severity, message) ← labelled? rest
        some ⟨number - 1, none, severity, message⟩
  | _ => none

end ReportEntry

/-! ### The parser for one file -/

/-- The report parser of one file: its path, and the spellings of it to look for at the
start of a line, in order. -/
structure ReportParser where
  file : Path
  spellings : List String
deriving DecidableEq, Inhabited

/-- A column pulled back to the end of its line. -/
def clampColumn (column length : Nat) : Nat :=
  min column length

namespace ReportParser

/-- The parser for a file checked from a directory: its path from that directory, if there
is one that is not empty, and the path as it was given. -/
def make (file workingDirectory : Path) : ReportParser :=
  let relative := ((file.relativeTo? workingDirectory).map (·.text)).toList.filter (· ≠ "")
  { file, spellings := if relative.contains file.text then relative else relative ++ [file.text] }

/-- What follows the first spelling of the file that starts the line and has a colon after
it; the colon is included. -/
def tail? (parser : ReportParser) (line : List Char) : Option (List Char) :=
  parser.spellings.findSome? fun spelling =>
    let rest := line.drop spelling.toList.length
    if spelling.toList.isPrefixOf line ∧ rest.head? = some ':' then some rest else none

/-- What a line of the report is. -/
def classify (parser : ReportParser) (line : List Char) : ReportLine :=
  match parser.tail? line with
  | none => .foreign
  | some tail =>
    match ReportEntry.read? tail with
    | none => .malformed (String.ofList tail)
    | some entry => .entry entry

/-- The diagnostic of an entry, its line and column pulled into the buffer. -/
def diagnostic (parser : ReportParser) (lines : SourceLines) (entry : ReportEntry) : Diagnostic :=
  let line := min entry.line (lines.count - 1)
  let column := entry.column.map fun column =>
    clampColumn column ((lines.lineLength? line).getD 0)
  ({ severity := entry.severity, file := parser.file, message := entry.message :
      Diagnostic }).located line column lines

/-- The diagnostics of a whole report, in its order. -/
def parse (parser : ReportParser) (output : String) (lines : SourceLines) : List Diagnostic :=
  (Text.lines output.toList).filterMap fun line =>
    match parser.classify line with
    | .entry entry => some (parser.diagnostic lines entry)
    | _ => none

end ReportParser

/-- The findings of a report about one file checked from a directory. -/
def parseReport (output : String) (file workingDirectory : Path) (lines : SourceLines) :
    List Diagnostic :=
  (ReportParser.make file workingDirectory).parse output lines

end LintHost
