/-!
# Signals

What processes are ended by, and told of, in the numbering of the system: the names of
signals, what is said of a process that one has ended, and those that end nothing. The end of
a script has the number zero and the name `EXIT`.
-/

namespace LintHost.Shell.Signal

/-- The signals in order, from 1, each with what is said of a process that it has ended. -/
def all : List (String × String) :=
  [("HUP", "Hangup"), ("INT", ""), ("QUIT", "Quit"), ("ILL", "Illegal instruction"),
    ("TRAP", "Trace/breakpoint trap"), ("ABRT", "Aborted"), ("BUS", "Bus error"),
    ("FPE", "Floating point exception"), ("KILL", "Killed"), ("USR1", "User defined signal 1"),
    ("SEGV", "Segmentation fault"), ("USR2", "User defined signal 2"), ("PIPE", ""),
    ("ALRM", "Alarm clock"), ("TERM", "Terminated"), ("16", "Stack fault"), ("CHLD", ""),
    ("CONT", ""), ("STOP", ""), ("TSTP", ""), ("TTIN", ""), ("TTOU", ""), ("URG", ""),
    ("XCPU", "CPU time limit exceeded"), ("XFSZ", "File size limit exceeded"),
    ("VTALRM", "Virtual timer expired"), ("PROF", "Profiling timer expired"), ("WINCH", ""),
    ("IO", "I/O possible"), ("PWR", "Power failure"), ("SYS", "Bad system call"),
    ("32", "Unknown signal 32"), ("33", "Unknown signal 33")]

/-- The names of the signals that mean nothing to the system, by which programs may talk. -/
def realTimeNames : List String :=
  "RTMIN" :: ((List.range 15).map fun n => "RTMIN+" ++ Nat.repr (n + 1)) ++
    ((List.range 14).map fun n => "RTMAX-" ++ Nat.repr (14 - n)) ++ ["RTMAX"]

/-- The names of all signals, from 1. -/
def names : List String :=
  all.map Prod.fst ++ realTimeNames

/-- The name of a signal, or of the end of a script. -/
def name? : Nat → Option String
  | 0 => some "EXIT"
  | n + 1 => names[n]?

/-- The number of a signal, given as a number or by its name in any case. -/
def number? (text : String) : Option Nat :=
  if text ≠ "" ∧ text.toList.all Char.isDigit then
    let n := Nat.ofDigitChars 10 text.toList 0
    if n ≤ names.length then some n else none
  else
    let same (a b : String) : Bool := a.map Char.toUpper == b.map Char.toUpper
    ("EXIT" :: names).findIdx? (same text)

/-- What is said of a process that a signal has ended. -/
def report (signal : Nat) : String :=
  match signal with
  | 0 => ""
  | n + 1 =>
    match all[n]? with
    | some (_, text) => text
    | none => "Real-time signal " ++ Nat.repr (n - 33)

/-- Whether a process goes on that does nothing about the signal. -/
def isHarmless (signal : Nat) : Bool :=
  signal == 0 || (name? signal).any ["CHLD", "CONT", "URG", "WINCH"].contains

/-- Whether nothing can be done about the signal. -/
def isFinal (signal : Nat) : Bool :=
  (name? signal).any ["KILL", "STOP"].contains

end LintHost.Shell.Signal
