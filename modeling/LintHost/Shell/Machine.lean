import LintHost.Shell.Arithmetic
import LintHost.Shell.World

/-!
# A shell at work

The state of a shell, `Machine`, and the actions on it, `Act`: an action may stop, and the
state up to there is kept. Here are those that everything else is made of: streams, messages,
variables and parameters.

An error of the shell itself ends the script with status 2, unless it happens in a command
that is not special; a message names the script, the line, and the command of the shell that
it is about.
-/

namespace LintHost.Shell

/-! ### The state -/

/-- A variable. It may be there without a value. -/
structure Variable where
  value : Option Raw
  isExported : Bool := false
  isReadOnly : Bool := false
deriving DecidableEq, Inhabited

/-- A shell. -/
structure Machine where
  world : World := {}
  /-- The open files of the streams. -/
  streams : List (Nat × Nat) := [(0, 0), (1, 1), (2, 2)]
  /-- The directory that it works in. -/
  directory : Location := []
  /-- The name that the script goes by. -/
  name : Raw := "sh"
  arguments : List Raw := []
  /-- The variables by their names. -/
  bindings : List (String × Variable) := []
  functions : List (String × Command) := []
  /-- The texts in the script. -/
  documents : List (Nat × Word) := []
  nextDocument : Nat := 0
  /-- What the last command ended with. -/
  status : Nat := 0
  /-- What the last command ended with whose output was put into a word. -/
  substituted : Nat := 0
  line : Nat := 1
  /-- The command of the shell that is running. -/
  command : Option String := none
  /-- The letters of the options that are set. -/
  options : List Char := []
  /-- What is done on signals and at the end, which has the name `EXIT`. -/
  traps : List (String × Raw) := []
  /-- How many loops are running. -/
  loops : Nat := 0
  /-- For every function that is running, the variables that it has made its own, as they
  were. -/
  locals : List (List (String × Option Variable)) := []
  /-- How far `getopts` has come inside an argument. -/
  optionOffset : Nat := 0
  /-- The number that the shell goes by. A part of it that runs on its own keeps it. -/
  process : Nat := 0
  /-- Whether this is a part of a shell that runs on its own. -/
  isPart : Bool := false
  /-- The commands in the background by their numbers, with what they ended with; the last
  one comes first. -/
  background : List (Nat × Nat) := []
  aliases : List (String × Raw) := []
  /-- The names of the programs that have been run or looked up. -/
  hashed : List String := []
  /-- The permissions that new files do not get. -/
  mask : Nat := 0o022
  /-- While something is done at the end or on a signal, what the shell ends with if that ends
  it. -/
  leaving : Option Nat := none
  /-- Whether something could not be written to the output. -/
  outputFailed : Bool := false
deriving Inhabited

/-- Why an action stops. -/
inductive Stop where
  /-- The shell ends. -/
  | exit
  /-- An error of the shell itself. -/
  | failed
  /-- A function or a script that was read in ends. -/
  | returned
  /-- Loops end, as many as is said. -/
  | broken (levels : Nat)
  /-- A loop goes on with its next round, after as many others have ended. -/
  | continued (levels : Nat)
  /-- The process is ended by a signal. -/
  | killed (signal : Nat)
deriving DecidableEq, Inhabited

/-- An action of a shell. -/
abbrev Act := ExceptT Stop (StateM Machine)

/-! ### Streams -/

/-- The open file that a stream can be written to. -/
def Machine.sink? (m : Machine) (stream : Nat) : Option Nat :=
  (m.streams.lookup stream).filter fun number => (m.world.opened[number]?).any (·.canWrite)

/-- Writes to a stream. -/
def emit (stream : Nat) (text : Raw) : Act Unit :=
  modify fun m =>
    match m.sink? stream with
    | some number =>
      let world := m.world
      { { m with world := {} } with world := world.write number text }
    | none => if stream = 1 ∧ text ≠ "" then { m with outputFailed := true } else m

/-- The open file that a stream can be read from. -/
def Machine.source? (m : Machine) (stream : Nat) : Option Nat :=
  (m.streams.lookup stream).filter fun number => (m.world.opened[number]?).any (·.canRead)

/-- What is said of a stream that leads nowhere. -/
def badStream : Raw := "Bad file descriptor"

/-- Reads all that is left of the input; or says why it cannot be read. -/
def readInput : Act (Except Raw Raw) := do
  let m ← get
  match m.source? 0 with
  | none => return .error badStream
  | some number =>
    match m.world.unread number with
    | .ok text =>
      set { m with world := m.world.advance number text.length }
      return .ok text
    | .error e => return .error e.reason

/-- The bytes that a path leads to; or why there are none. -/
def readFile (path : Raw) : Act (Except Raw Raw) := do
  let m ← get
  let path : Path := ⟨Raw.toText path⟩
  let found : Except SystemError Raw := match World.device? path with
    | some (.stream number) =>
      match m.streams.lookup number with
      | some number => m.world.unread number
      | none => .error .notFound
    | _ =>
      match m.world.openPath m.directory path { reads := true } with
      | .ok (number, world) => world.unread number
      | .error e => .error e
  return found.mapError SystemError.reason

/-! ### Messages -/

/-- The start of every message of the shell. -/
def messagePrefix (m : Machine) : Raw :=
  m.name ++ ": " ++ Nat.repr m.line ++ ": " ++
    match m.command with
    | some command => command ++ ": "
    | none => ""

/-- Writes a message of the shell. -/
def warn (message : Raw) : Act Unit := do
  emit 2 (messagePrefix (← get) ++ message ++ "\n")

/-- Ends a command with a status. -/
def setStatus (status : Nat) : Act Unit :=
  modify fun m => { m with status }

/-- Stops at an error of the shell, with a message. -/
def fail {α : Type} (message : Raw) : Act α := do
  warn message
  setStatus 2
  throw .failed

/-! ### Variables -/

namespace Machine

/-- The value of a variable. -/
def valueOf? (m : Machine) (name : String) : Option Raw :=
  (m.bindings.lookup name).bind Variable.value

/-- Whether an option is set. -/
def hasOption (m : Machine) (letter : Char) : Bool :=
  m.options.contains letter

/-- The machine with another variable of a name, or without one. -/
def putVariable (m : Machine) (name : String) (v : Option Variable) : Machine :=
  let others := m.bindings.filter (·.1 ≠ name)
  { m with bindings := (v.toList.map fun v => (name, v)) ++ others }

/-- The variables that other programs see. -/
def environment (m : Machine) : List (String × Raw) :=
  m.bindings.filterMap fun (name, v) =>
    if v.isExported then v.value.map fun value => (name, value) else none

end Machine

/-- Changes a variable; one that is read only cannot be changed. -/
def changeVariable (name : String) (change : Option Variable → Option Variable) : Act Unit := do
  let old := (← get).bindings.lookup name
  if ¬ isName name then fail (name ++ ": bad variable name")
  else if old.any Variable.isReadOnly then fail (name ++ ": is read only")
  else
    modify fun m => m.putVariable name (change old)
    if name = "OPTIND" then modify fun m => { m with optionOffset := 0 }
    if name = "PATH" then modify fun m => { m with hashed := [] }

/-- Gives a variable a value. -/
def assign (name : String) (value : Raw) : Act Unit := do
  let exports := (← get).hasOption 'a'
  changeVariable name fun old =>
    some { (old.getD { value := none }) with
      value := some value, isExported := exports || old.any Variable.isExported }

/-- The number that a text has to be. -/
def number (text : Raw) : Act Nat :=
  if text ≠ "" ∧ text.toList.all Char.isDigit then return Nat.ofDigitChars 10 text.toList 0
  else fail ("Illegal number: " ++ text)

/-! ### Parameters -/

/-- The options in the order in which they are listed. -/
def optionLetters : List (Char × String) :=
  [('e', "errexit"), ('f', "noglob"), ('I', "ignoreeof"), ('i', "interactive"),
    ('m', "monitor"), ('n', "noexec"), ('s', "stdin"), ('x', "xtrace"), ('v', "verbose"),
    ('V', "vi"), ('E', "emacs"), ('C', "noclobber"), ('a', "allexport"), ('b', "notify"),
    ('u', "nounset"), ('p', "privileged")]

namespace Machine

/-- The value of a parameter other than the list of all arguments. -/
def parameter? (m : Machine) (name : String) : Option Raw :=
  match name with
  | "#" => some (Nat.repr m.arguments.length)
  | "?" => some (Nat.repr m.status)
  | "$" => some (Nat.repr m.process)
  | "!" => m.background.head?.map fun job => Nat.repr job.1
  | "-" => some (String.ofList ((optionLetters.map Prod.fst).reverse.filter m.hasOption))
  | name =>
    if name.toList.all Char.isDigit then
      match Nat.ofDigitChars 10 name.toList 0 with
      | 0 => some m.name
      | n + 1 => m.arguments[n]?
    else m.valueOf? name

/-- The characters at which values are split. -/
def separators (m : Machine) : List Char :=
  ((m.valueOf? "IFS").getD " \t\n").toList

end Machine

end LintHost.Shell
