import LintHost.Diagnostic

/-!
# Diagnostics for a terminal

The text form of a list of diagnostics: for each of them a line with its place, severity
and message and an indented line for every line of its description, and after the last a
summary that counts errors and warnings.

Colours are ANSI escape sequences around the place, the severity and the first word of the
summary, and nothing else: `Terminal.paint` is the only function that looks at whether they
are wanted.
-/

namespace LintHost

/-- When to colour the output. -/
inductive ColorMode where
  /-- When it goes to a terminal. -/
  | auto
  | always
  | never
deriving DecidableEq, Inhabited

/-- Whether to colour output that goes to a terminal or not. -/
def ColorMode.colors : ColorMode → Bool → Bool
  | .auto, isTerminal => isTerminal
  | .always, _ => true
  | .never, _ => false

namespace Terminal

/-! ### Colours -/

/-- The escape sequence that selects the given display attributes. -/
def escape (attributes : String) : String :=
  "\x1b[" ++ attributes ++ "m"

/-- The attributes of a severity: bold and red, yellow or cyan. -/
def severityAttributes : Severity → String
  | .error => "1;31"
  | .warning => "1;33"
  | .info => "1;36"

/-- A text under display attributes that are reset after it, or as it is without colours. -/
def paint (colors : Bool) (attributes text : String) : String :=
  if colors then escape attributes ++ text ++ escape "0" else text

/-! ### Diagnostics -/

/-- The lines of a description, each behind a bar. -/
def descriptionLines (description : String) : String :=
  String.join <| (Text.lines description.toList).map fun line =>
    "  | " ++ String.ofList line ++ "\n"

/-- A diagnostic with its description. -/
def diagnostic (colors : Bool) (d : Diagnostic) : String :=
  paint colors "1" d.place ++ ": " ++
    paint colors (severityAttributes d.severity) d.severity.word ++ ": " ++ d.message ++ "\n" ++
    (d.description.map descriptionLines).getD ""

/-- Diagnostics one after the other. -/
def diagnostics (colors : Bool) (ds : List Diagnostic) : String :=
  String.join (ds.map (diagnostic colors))

/-! ### The summary -/

/-- A count with its noun, in the singular for one. -/
def counted (n : Nat) (noun : String) : String :=
  Nat.repr n ++ " " ++ noun ++ if n = 1 then "" else "s"

/-- The summary line; without errors and warnings there is none. -/
def summary (colors : Bool) (errors warnings : Nat) : String :=
  if errors = 0 ∧ warnings = 0 then ""
  else if errors = 0 then
    paint colors (severityAttributes .warning) "warning" ++ ": " ++
      counted warnings "warning" ++ " found\n"
  else
    paint colors (severityAttributes .error) "error" ++ ": " ++ counted errors "error" ++
      (if warnings = 0 then "" else " and " ++ counted warnings "warning") ++ " found\n"

end Terminal

end LintHost
