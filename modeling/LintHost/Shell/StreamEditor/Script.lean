import LintHost.Shell.Regex

/-!
# Scripts of the stream editor

A script is a list of commands. Each has an address that selects the lines it is run for, and
an action. A block is an action, too: where it is not selected, the script goes on after its
end. Jumps lead to labels, which are kept beside the commands.
-/

namespace LintHost.Shell.StreamEditor

/-! ### Addresses -/

/-- What selects a line. -/
inductive Address where
  | line (number : Nat)
  /-- Every so many lines from a first one on. -/
  | step (first every : Nat)
  | last
  /-- The lines in which something is found; without an expression, the one used last. -/
  | found (searcher : Option Searcher)
  /-- As the end of a range: so many lines further. -/
  | further (count : Nat)
  /-- As the end of a range: the next multiple. -/
  | multiple (of : Nat)
deriving Inhabited

/-- The lines that a command is run for. -/
inductive Selection where
  | all
  | one (a : Address)
  | range (start stop : Address)
deriving Inhabited

/-! ### Replacements -/

/-- How the letters of a text are changed. -/
inductive LetterMode where
  | asIs
  | upper
  | lower
deriving DecidableEq, Inhabited

/-- A part of a replacement: a text, then what a group has matched. The first letter may be
changed in a way of its own. -/
structure ReplacementPart where
  text : Raw
  group : Option Nat := none
  mode : LetterMode := .asIs
  first : LetterMode := .asIs
deriving DecidableEq, Inhabited

/-- A replacement of what is found. -/
structure Substitution where
  searcher : Option Searcher
  parts : List ReplacementPart
  isGlobal : Bool := false
  /-- Whether the result is written out. -/
  prints : Bool := false
  /-- Whether the result is run as a command. -/
  executes : Bool := false
  /-- Whether it is written out before it is run. -/
  printsFirst : Bool := false
  /-- Which match is the first to be replaced, counted from one. -/
  number : Nat := 1
  /-- A file that changed lines are written to. -/
  file : Option Raw := none
deriving Inhabited

/-! ### Commands -/

/-- When a jump is made. -/
inductive JumpCondition where
  | always
  | ifReplaced
  | unlessReplaced
deriving DecidableEq, Inhabited

/-- What a command does. -/
inductive Action where
  /-- The commands up to the one with the given number. -/
  | block (stop : Nat)
  | lineNumber
  | append (text : Raw)
  | insert (text : Raw)
  | insertFile (file : Raw)
  | change (text : Raw)
  | jump (condition : JumpCondition) (label : String)
  | delete
  | deleteLine
  | execute (command : Raw)
  | fileName
  | get
  | getAppended
  | hold
  | holdAppended
  | list (width : Option Nat)
  | next
  | nextAppended
  | print
  | printLine
  | quit (status : Nat) (prints : Bool)
  | readFile (file : Raw)
  | readLine (file : Raw)
  | substitute (s : Substitution)
  | writeFile (file : Raw)
  | writeLine (file : Raw)
  | exchange
  | transliterate (pairs : List (Raw.Glyph × Raw.Glyph))
  | clear
deriving Inhabited

/-- A command. -/
structure Command where
  selection : Selection
  isNegated : Bool
  action : Action
deriving Inhabited

/-- A script. -/
structure Script where
  commands : Array Command := #[]
  /-- Where the labels are. -/
  labels : List (String × Nat) := []
  /-- Whether lines are not written out at the end. -/
  isQuiet : Bool := false
  /-- What is said where an expression used last is meant and none has been used. -/
  complaint : Raw := ""
deriving Inhabited

end LintHost.Shell.StreamEditor
