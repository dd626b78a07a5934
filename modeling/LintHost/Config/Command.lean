import LintHost.Config.Error

/-!
# The checker's command

The command is one text in the settings and is run without a shell, so it is split into
words here, by the quoting rules of a POSIX shell: single quotes keep everything, double
quotes everything but a few escapes, a backslash keeps the character after it, and a `#` at
the start of a word begins a comment up to the end of the line.

`Command.words?` is a machine over the characters: `Command.Scan.step` takes one character
and may finish a word, and only some states may be left at the end. A word that is an
operator of the shell can only be a mistake and is refused by `Command.parse`, quoted or not.
-/

namespace LintHost

namespace Command

/-! ### Splitting into words -/

/-- Where the scanner is: between words, in a comment, or in a word of which the given
characters have been read, perhaps inside quotes or after a backslash. -/
inductive Scan where
  | gap
  | comment
  | word (read : List Char)
  | escaped (read : List Char)
  | single (read : List Char)
  | double (read : List Char)
  | doubleEscaped (read : List Char)
deriving DecidableEq, Inhabited

namespace Scan

/-- A character that separates words. -/
def isSeparator (c : Char) : Bool :=
  c == ' ' || c == '\t' || c == '\n'

/-- A character that a backslash inside double quotes escapes. -/
def isEscapable (c : Char) : Bool :=
  c == '$' || c == '\x60' || c == '"' || c == '\\'

/-- A character of a word outside quotes, with the word that it ends, if it ends one. -/
def inWord (read : List Char) (c : Char) : Option (List Char) × Scan :=
  if c = '"' then (none, double read)
  else if c = '\'' then (none, single read)
  else if c = '\\' then (none, escaped read)
  else if isSeparator c then (some read, gap)
  else (none, word (read ++ [c]))

/-- One character, with the word that it ends, if it ends one. -/
def step : Scan → Char → Option (List Char) × Scan
  | gap, c =>
    if isSeparator c then (none, gap)
    else if c = '#' then (none, comment)
    else inWord [] c
  | comment, c => (none, if c = '\n' then gap else comment)
  | word read, c => inWord read c
  | escaped read, c => (none, word (if c = '\n' then read else read ++ [c]))
  | single read, c => (none, if c = '\'' then word read else single (read ++ [c]))
  | double read, c =>
    (none, if c = '"' then word read
      else if c = '\\' then doubleEscaped read
      else double (read ++ [c]))
  | doubleEscaped read, c =>
    (none, double (if isEscapable c then read ++ [c]
      else if c = '\n' then read
      else read ++ ['\\', c]))

/-- The words that end with the text, if the text may end here. -/
def finish : Scan → Option (List (List Char))
  | gap => some []
  | comment => some []
  | word read => some [read]
  | _ => none

/-- The words of the rest of a text. -/
def run : Scan → List Char → Option (List (List Char))
  | state, [] => state.finish
  | state, c :: cs =>
    match state.step c with
    | (some finished, next) => (run next cs).map (finished :: ·)
    | (none, next) => run next cs

end Scan

/-- The words of a command; `none` if a quote is not closed or a backslash ends the text. -/
def words? (command : List Char) : Option (List (List Char)) :=
  Scan.run .gap command

/-! ### Commands -/

/-- The control operators of a shell. -/
def controlOperators : List String :=
  ["|", "||", "|&", "&", "&&", ";", ";;", "(", ")", "<", ">", ">>", "<<", "<&", ">&", "&>"]

/-- The words of a command that can be run without a shell: at least one, and no operator
among them. -/
def parse (command : String) : Except ConfigError (List String) :=
  match words? command.toList with
  | none => .error (.invalidCommand command .unbalanced)
  | some words =>
    let words := words.map String.ofList
    if words.any controlOperators.contains then
      .error (.invalidCommand command .shellOperator)
    else if words = [] then .error .emptyCommand
    else .ok words

end Command

end LintHost
