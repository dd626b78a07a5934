/-!
# Shell scripts

What a script for the shell consists of. A script is a list of commands; a command has words
and redirections, or it is made up of other commands. A word is a list of pieces: text, and
what is put in its place when the command is run, the value of a parameter, the output of
other commands, or the value of an arithmetic expression.

Quotes are gone once a script has been read. What they leave is whether a piece is quoted, and
a mark, since a word with quotes counts even if it is empty.
-/

namespace LintHost.Shell

/-- What a redirection does to a file. -/
inductive FileMode where
  | input
  | output
  /-- As output, even where files are not to be overwritten. -/
  | clobber
  | appended
  | both
deriving DecidableEq, Inhabited

/-- Which end of the value of a parameter a pattern is taken from. -/
inductive TrimEnd where
  | front
  | back
deriving DecidableEq, Inhabited

mutual

/-- A piece of a word. -/
inductive Piece where
  | text (value : String) (quoted : Bool)
  /-- Quotes were here. -/
  | mark
  | parameter (name : String) (use : Use) (quoted : Bool)
  /-- The output of commands. -/
  | output (body : Option Command) (quoted : Bool)
  | arithmetic (expression : List Piece) (quoted : Bool)

/-- What is made of the value of a parameter. -/
inductive Use where
  | plain
  | length
  /-- Another word where there is no value; an empty one may count as none. -/
  | fallback (emptyToo : Bool) (word : List Piece)
  /-- The same, and the parameter gets the value of the word. -/
  | assign (emptyToo : Bool) (word : List Piece)
  /-- A message where there is no value, and the end of the script. -/
  | demand (emptyToo : Bool) (message : List Piece)
  /-- Another word where there is a value. -/
  | instead (emptyToo : Bool) (word : List Piece)
  /-- The value without the shortest or longest part that a pattern matches. -/
  | trim (side : TrimEnd) (longest : Bool) (pattern : List Piece)
  /-- Something that the shell does not know. -/
  | bad

/-- A redirection of the stream with the given number. -/
inductive Redirection where
  | file (stream : Nat) (mode : FileMode) (target : List Piece)
  /-- The stream goes where another one goes, or is closed. -/
  | duplicate (stream : Nat) (target : List Piece)
  /-- The input is a text in the script, found by its number. -/
  | document (stream : Nat) (number : Nat)

/-- A command. A line is the one that the command starts on. -/
inductive Command where
  | simple (line : Nat) (assignments : List (String × List Piece))
      (words : List (List Piece)) (redirections : List Redirection)
  | pipeline (commands : List Command)
  | negated (command : Command)
  | sequence (first second : Command)
  /-- The second one is run if the first one succeeds. -/
  | conjunction (first second : Command)
  /-- The second one is run if the first one fails. -/
  | disjunction (first second : Command)
  | background (command : Command)
  /-- Commands in a shell of their own. -/
  | subshell (line : Nat) (body : Command) (redirections : List Redirection)
  | group (line : Nat) (body : Command) (redirections : List Redirection)
  | conditional (test success : Command) (failure : Option Command)
  /-- A loop that goes on while its test succeeds, or until it does. -/
  | repeated (untilSuccess : Bool) (test body : Command)
  | forEach (line : Nat) (name : String) (words : List (List Piece)) (body : Command)
  | choice (line : Nat) (subject : List Piece)
      (cases : List (List (List Piece) × Option Command))
  | define (line : Nat) (name : String) (body : Command)

end

deriving instance Inhabited for Piece, Use, Redirection, Command

/-- A word, as it is written. -/
abbrev Word := List Piece

namespace Word

/-- The text of a word without anything special in it. -/
def literal? : Word → Option String
  | [] => some ""
  | .text value false :: rest => (literal? rest).map (value ++ ·)
  | _ => none

end Word

/-! ### Names -/

/-- The first character of the name of a variable. -/
def isNameStart (c : Char) : Bool :=
  c.isAlpha || c == '_'

/-- A character of the name of a variable. -/
def isNameChar (c : Char) : Bool :=
  c.isAlphanum || c == '_'

/-- Whether a text is the name of a variable. -/
def isName (text : String) : Bool :=
  match text.toList with
  | [] => false
  | c :: rest => isNameStart c && rest.all isNameChar

/-- A parameter that is not a variable and has a mark for a name. -/
def isSpecialParameter (c : Char) : Bool :=
  ['!', '@', '*', '#', '?', '$', '-'].contains c || c.isDigit

/-- The commands of the shell that are special: an error in one of them ends the script, and
no function can have the name of one. -/
def specialCommands : List String :=
  [".", ":", "break", "continue", "eval", "exec", "exit", "export", "local", "readonly",
    "return", "set", "shift", "times", "trap", "unset"]

/-! ### Faults -/

/-- Why a script cannot be read. -/
inductive Fault where
  | unexpected (token : String)
  | unexpectedFor (token expected : String)
  | unterminatedQuote
  | missingBrace
  | missingParentheses
  | endInBackquotes
  | badLoopVariable
  | badFunctionName
  | badStreamNumber
deriving DecidableEq, Inhabited

/-- The wording of a fault. -/
def Fault.message : Fault → String
  | .unexpected token => "Syntax error: " ++ token ++ " unexpected"
  | .unexpectedFor token expected =>
    "Syntax error: " ++ token ++ " unexpected (expecting " ++ expected ++ ")"
  | .unterminatedQuote => "Syntax error: Unterminated quoted string"
  | .missingBrace => "Syntax error: Missing '\x7d'"
  | .missingParentheses => "Syntax error: Missing '))'"
  | .endInBackquotes => "Syntax error: EOF in backquote substitution"
  | .badLoopVariable => "Syntax error: Bad for loop variable"
  | .badFunctionName => "Syntax error: Bad function name"
  | .badStreamNumber => "Syntax error: Bad fd number"

end LintHost.Shell
