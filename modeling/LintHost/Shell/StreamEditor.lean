import LintHost.Shell.StreamEditor.Cycle
import LintHost.Shell.StreamEditor.Reader
import LintHost.Shell.Tools

/-!
# The stream editor

`sed` as a tool: its options, which may stand among the other arguments, the script that they
and the arguments give, and the files that lines are written to.
-/

namespace LintHost.Shell.StreamEditor

/-! ### Options -/

/-- Whether an option has a value. -/
inductive ValueRule where
  | without
  | needed
  | optional
deriving DecidableEq, Inhabited

/-- The letters of the options. -/
def shortOptions : List (Char × ValueRule) :=
  [('b', .without), ('s', .without), ('n', .without), ('r', .without), ('z', .without),
    ('u', .without), ('E', .without), ('e', .needed), ('f', .needed), ('l', .needed),
    ('i', .optional)]

/-- The long names of the options, with letters that stand for them. -/
def longOptions : List (String × Char × ValueRule) :=
  [("binary", 'b', .without), ("regexp-extended", 'E', .without), ("debug", 'b', .without),
    ("in-place", 'i', .optional), ("expression", 'e', .needed), ("file", 'f', .needed),
    ("line-length", 'l', .needed), ("null-data", 'z', .without),
    ("zero-terminated", 'z', .without), ("quiet", 'n', .without), ("posix", 'b', .without),
    ("silent", 'n', .without), ("sandbox", 'S', .without), ("separate", 's', .without),
    ("unbuffered", 'u', .without), ("follow-symlinks", 'b', .without)]

/-- Arguments that have been sorted: the options with their values, and the others. -/
structure Sorted where
  options : List (Char × Option Raw) := []
  others : List Raw := []

/-- The options in an argument of letters, and whether the last one takes the next argument as
its value. -/
def lettersIn : List Char → Except Raw (List (Char × Option Raw) × Option Char)
  | [] => .ok ([], none)
  | c :: rest => do
    let onward (value : Option Raw) : Except Raw (List (Char × Option Raw) × Option Char) := do
      let (more, waiting) ← lettersIn rest
      return ((c, value) :: more, waiting)
    match shortOptions.lookup c with
    | none => throw ("invalid option -- '" ++ String.singleton c ++ "'")
    | some .without => onward none
    | some .optional =>
      return ([(c, if rest.isEmpty then none else some (String.ofList rest))], none)
    | some .needed =>
      if rest.isEmpty then return ([], some c)
      else return ([(c, some (String.ofList rest))], none)

/-- The option that a name stands for, which may be cut short. -/
def longOption (name : String) : Except Raw (String × Char × ValueRule) :=
  let candidates := longOptions.filter fun o => name.toList.isPrefixOf o.1.toList
  match candidates.find? (·.1 = name), candidates with
  | some o, _ | none, [o] => .ok o
  | none, [] => .error ("unrecognized option '--" ++ name ++ "'")
  | none, o :: more =>
    if more.all fun other => other.2 == o.2 then .ok o
    else .error ("option '--" ++ name ++ "' is ambiguous; possibilities:" ++
      String.join ((o :: more).map fun other => " '--" ++ other.1 ++ "'"))

/-- The options in an argument, and the letter of one that takes the next argument as its value
with what is said if there is none. An argument that is no option gives nothing. -/
def optionsIn (arg : Raw) :
    Except Raw (Option (List (Char × Option Raw) × Option (Char × Raw))) := do
  match arg.toList with
  | '-' :: '-' :: named =>
    let name := String.ofList (named.takeWhile (· ≠ '='))
    let value := if named.contains '=' then
      some (String.ofList ((named.dropWhile (· ≠ '=')).drop 1)) else none
    let (full, letter, rule) ← longOption name
    match rule, value with
    | .without, some _ => throw ("option '--" ++ full ++ "' doesn't allow an argument")
    | .needed, none =>
      return some ([], some (letter, "option '--" ++ full ++ "' requires an argument"))
    | _, value => return some ([(letter, value)], none)
  | '-' :: letters@(_ :: _) =>
    let (found, waiting) ← lettersIn letters
    return some (found, waiting.map fun c =>
      (c, "option requires an argument -- '" ++ String.singleton c ++ "'"))
  | _ => return none

/-- Sorts arguments, the first of which may be the value of an option that waits for it. -/
def sortArguments : (waiting : Option (Char × Raw)) → List Raw → Except Raw Sorted
  | none, [] => .ok {}
  | some (_, complaint), [] => .error complaint
  | some (c, _), arg :: args => do
    let sorted ← sortArguments none args
    return { sorted with options := (c, some arg) :: sorted.options }
  | none, arg :: args => do
    if arg = "--" then return { others := args }
    match ← optionsIn arg with
    | some (found, waiting) =>
      let sorted ← sortArguments waiting args
      return { sorted with options := found ++ sorted.options }
    | none =>
      let sorted ← sortArguments none args
      return { sorted with others := arg :: sorted.others }

/-! ### The start -/

/-- What may be refused before the editor starts. -/
abbrev Starting := ExceptT Refusal Act

/-- Follows an option. -/
def follow (state : Draft × Settings × Bool) (option : Char × Option Raw) :
    Starting (Draft × Settings × Bool) := do
  let (draft, settings, hasScript) := state
  let value := option.2.getD ""
  match option.1 with
  | 'n' => return (draft, { settings with isQuiet := true }, hasScript)
  | 's' => return (draft, { settings with separates := true }, hasScript)
  | 'z' => return (draft, { settings with mark := '\x00' }, hasScript)
  | 'u' => return (draft, { settings with isDirect := true }, hasScript)
  | 'E' | 'r' => return ({ draft with isExtended := true }, settings, hasScript)
  | 'S' => return ({ draft with isSandboxed := true }, settings, hasScript)
  | 'l' =>
    let digits := value.toList.takeWhile Char.isDigit
    return (draft, { settings with width := Nat.ofDigitChars 10 digits 0 }, hasScript)
  | 'i' =>
    let pattern := if value.toList.contains '*' then value else "*" ++ value
    return (draft, { settings with separates := true, inPlace := some pattern }, hasScript)
  | 'e' => return (← draft.read none value, settings, true)
  | 'f' =>
    match ← (if value = "-" then readInput else readFile value : Act _) with
    | .ok text => return (← draft.read (some value) text, settings, true)
    | .error reason =>
      if reason = SystemError.isADirectory.reason then
        return (← draft.read (some value) "", settings, true)
      else
        throw { message := "couldn't open file " ++ value ++ ": " ++ reason, status := 4 }
  | _ => return state

/-- The files that a command writes lines to. -/
def Action.targets : Action → List Raw
  | .writeFile file | .writeLine file => [file]
  | .substitute s => s.file.toList
  | _ => []

/-- Opens a file that lines are written to. -/
def openTarget (name : Raw) : Starting Target := do
  if name = "/dev/stdout" then return { name, destination := .stream 1 }
  else if name = "/dev/stderr" then return { name, destination := .stream 2 }
  else
    let m : Machine ← get
    match m.world.openPath m.directory ⟨Raw.toText name⟩
        { writes := true, truncates := true } with
    | .ok (number, world) =>
      set { m with world }
      return { name, destination := .opened number }
    | .error e =>
      throw { message := "couldn't open file " ++ name ++ ": " ++ e.reason, status := 4 }

/-- The editor that arguments ask for, as it starts; or why it does not. Without a script
nothing is said. -/
def start (sorted : Sorted) : Starting Editor := do
  let (draft, settings, hasScript) ← sorted.options.foldlM follow ({}, {}, false)
  let (draft, files) ← match hasScript, sorted.others with
    | true, files => pure (draft, files)
    | false, script :: files => do pure (← draft.read none script, files)
    | false, [] => throw { message := "", status := 1 }
  let script ← draft.finish
  if files.isEmpty ∧ settings.inPlace.isSome then
    throw { message := "no input files", status := 4 }
  let names := (script.commands.toList.flatMap fun c => c.action.targets).eraseDups
  let targets ← names.mapM openTarget
  return {
    script, targets
    settings := { settings with isQuiet := settings.isQuiet || script.isQuiet }
    files := if files.isEmpty then ["-"] else files
    ranges := script.commands.map fun c => .start c.selection }

/-! ### The tool -/

/-- How many lines are read at most. -/
def greatestLength : Nat := 1000000

/-- Runs an editor to its end; gives the status. -/
def runEditor (runScript : Raw → Act Raw) (e : Editor) : Act Nat := do
  let (result, e) ← ((runLines runScript greatestLength).run).run e
  if e.settings.inPlace.isNone then emit 1 (String.join e.written.reverse)
  let status := match result with
    | .error status => status
    | .ok () => 0
  if ((← get).sink? 1).isNone then
    emit 2 ("sed: couldn't close stdout: " ++ badStream ++ "\n")
    return 4
  else return status

end StreamEditor

/-- Edits the lines of files by a script. Commands in the script are run by the given
function, which gives their output. -/
def sed (runScript : Raw → Act Raw) : Tool := fun tool args => do
  let say (message : Raw) (status : Nat) : Act Nat := do
    if message ≠ "" then emit 2 (tool ++ ": " ++ message ++ "\n")
    return status
  match StreamEditor.sortArguments none args with
  | .error message => say message 1
  | .ok sorted =>
    match ← (StreamEditor.start sorted).run with
    | .error refusal => say refusal.message refusal.status
    | .ok editor => StreamEditor.runEditor runScript editor

end LintHost.Shell
