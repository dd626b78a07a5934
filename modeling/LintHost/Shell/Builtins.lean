import LintHost.Shell.Condition
import LintHost.Shell.Expansion
import LintHost.Shell.Reader
import LintHost.Shell.Signal
import LintHost.Shell.Tools

/-!
# The commands of the shell

The commands that change the shell itself, or that it has of its own because scripts need them
often. Each is an action on the shell, which gets its arguments and gives its status.

The commands that run other commands are not among them: `eval`, `exec`, `command` and the
one that reads in a script.
-/

namespace LintHost.Shell

/-- A command of the shell: what it does with its arguments. -/
abbrev Builtin := List Raw → Act Nat

/-! ### Options -/

/-- Whether a letter is allowed, by a list of letters in which a colon stands after those that
take a value; and whether it takes one. -/
def allowance? (letter : Char) : List Char → Option Bool
  | [] => none
  | c :: ':' :: rest => if c = letter then some true else allowance? letter rest
  | c :: rest => if c = letter then some false else allowance? letter rest

/-- The options in the letters of one argument, and one that waits for its value. -/
def lettersOf (allowed : List Char) : List Char → Act (List (Char × Raw) × Option Char)
  | [] => return ([], none)
  | c :: rest => do
    match allowance? c allowed with
    | none => fail ("Illegal option -" ++ String.singleton c)
    | some true =>
      if rest.isEmpty then return ([], some c) else return ([(c, String.ofList rest)], none)
    | some false => do
      let (more, waiting) ← lettersOf allowed rest
      return ((c, "") :: more, waiting)

/-- The options before the other arguments, and these. -/
def optionsOf (allowed : List Char) : List Raw → Act (List (Char × Raw) × List Raw)
  | [] => return ([], [])
  | "--" :: args => return ([], args)
  | arg :: args => do
    match arg.toList with
    | '-' :: c :: letters =>
      let (found, waiting) ← lettersOf allowed (c :: letters)
      match waiting, args with
      | none, args =>
        let (more, rest) ← optionsOf allowed args
        return (found ++ more, rest)
      | some c, value :: args =>
        let (more, rest) ← optionsOf allowed args
        return (found ++ (c, value) :: more, rest)
      | some c, [] => fail ("No arg for -" ++ String.singleton c ++ " option")
    | _ => return ([], arg :: args)

/-- The letters of the options before the other arguments, and these. -/
def flagsOf (allowed : String) (args : List Raw) : Act (List Char × List Raw) := do
  let (found, rest) ← optionsOf allowed.toList args
  return (found.map Prod.fst, rest)

/-! ### Writing -/

/-- A text as the shell would have to be given it: single quotes around everything but single
quotes, which stand between double ones. -/
def inQuotes (text : Raw) : Raw :=
  let isQuote (c : Char) : Bool := c == '\''
  let runs := text.toList.splitBy fun a b => isQuote a == isQuote b
  let shown := runs.map fun run =>
    if run.any isQuote then "\"" ++ String.ofList run ++ "\""
    else "'" ++ String.ofList run ++ "'"
  if text = "" then "''"
  else if text.toList.head?.any isQuote then "''" ++ String.join shown
  else String.join shown

/-- Writes a text with its escapes replaced, or arguments in a format. -/
def printFormatted : Builtin := fun args => do
  let (_, args) ← flagsOf "" args
  match args with
  | [] => fail "usage: printf format [arg ...]"
  | format :: args =>
    let label := messagePrefix (← get)
    let label := String.ofList (label.toList.take (label.length - 2))
    let (written, status) := Formatter.run false label format args
    emitAll written
    return status

/-! ### Variables and parameters -/

/-- Writes the variables that fulfil a condition as commands that set them. -/
def listVariables (start : Raw) (admits : Variable → Bool) : Act Unit := do
  let sorted := (← get).bindings.mergeSort fun a b => a.1 ≤ b.1
  sorted.forM fun (name, v) => do
    if admits v then
      match v.value with
      | some value => emit 1 (start ++ name ++ "=" ++ inQuotes value ++ "\n")
      | none => if start ≠ "" then emit 1 (start ++ name ++ "\n")

/-- A name and the value after an equals sign, if there is one. -/
def splitAssignment (arg : Raw) : String × Option Raw :=
  let name := arg.toList.takeWhile (· ≠ '=')
  match arg.toList.drop name.length with
  | _ :: value => (String.ofList name, some (String.ofList value))
  | [] => (arg, none)

/-- Marks variables, which may be given values. -/
def markVariables (command : String) (mark : Variable → Variable)
    (isMarked : Variable → Bool) : Builtin := fun args => do
  let (flags, args) ← flagsOf "p" args
  if ¬ flags.isEmpty ∨ args.isEmpty then
    listVariables (command ++ " ") isMarked
  else
    args.forM fun arg => do
      match splitAssignment arg with
      | (name, some value) =>
        assign name value
        modify fun m => m.putVariable name ((m.bindings.lookup name).map mark)
      | (name, none) =>
        match (← get).bindings.lookup name with
        | some v => modify fun m => m.putVariable name (some (mark v))
        | none => changeVariable name fun _ => some (mark { value := none })
  return 0

/-- Keeps a variable as it is until the end of the function that is running. -/
def keepVariable (name : String) : Act Unit :=
  modify fun m =>
    match m.locals with
    | [] => m
    | kept :: outer =>
      if kept.any (·.1 = name) then m
      else { m with locals := ((name, m.bindings.lookup name) :: kept) :: outer }

/-- Makes variables a function's own. -/
def makeLocal : Builtin := fun args => do
  if (← get).locals.isEmpty then fail "not in a function"
  args.forM fun arg => do
    let (name, value) := splitAssignment arg
    if name ≠ "-" ∧ ¬ isName name then fail (name ++ ": bad variable name")
    keepVariable name
    match value with
    | some value => assign name value
    | none => return ()
  return 0

/-- Forgets variables or functions. -/
def forget : Builtin := fun args => do
  let (flags, args) ← flagsOf "vf" args
  args.forM fun name => do
    if flags.getLast? = some 'f' then
      modify fun m => { m with functions := m.functions.filter (·.1 ≠ name) }
    else changeVariable name fun _ => none
  return 0

/-- Drops arguments of the script. -/
def shift : Builtin := fun args => do
  let count ← match args with
    | [] => pure 1
    | arg :: _ => number arg
  let m ← get
  if m.arguments.length < count then fail "can't shift that many"
  set { m with arguments := m.arguments.drop count, optionOffset := 0 }
  return 0

/-! ### Options of the shell -/

/-- Sets an option, or drops it. -/
def setOption (letter : Char) (value : Bool) : Act Unit := do
  if (optionLetters.lookup letter).isNone then
    fail ("Illegal option -" ++ String.singleton letter)
  modify fun m =>
    let others := m.options.filter (· ≠ letter)
    { m with options := if value then letter :: others else others }

/-- Lists the options, as a table or as commands that set them. -/
def listOptions (asTable : Bool) : Act Unit := do
  let m ← get
  if asTable then emit 1 "Current option settings\n"
  (optionLetters.map fun o => (o.2, m.hasOption o.1)) ++
      [("nolog", false), ("debug", false)] |>.forM fun (name, isOn) =>
    if asTable then
      let padding := String.ofList (List.replicate (16 - name.length) ' ')
      emit 1 (name ++ padding ++ (if isOn then "on" else "off") ++ "\n")
    else emit 1 ("set " ++ (if isOn then "-o " else "+o ") ++ name ++ "\n")

/-- Sets an option by its name. -/
def setNamedOption (name : Raw) (value : Bool) : Act Unit := do
  match optionLetters.find? fun o => o.2 = name with
  | some (letter, _) => setOption letter value
  | none => if ¬ ["nolog", "debug"].contains name then fail ("Illegal option -o " ++ name)

/-- Sets the options of one argument; tells whether the next argument is the name of one. -/
def setLetters (value : Bool) : List Char → Act Bool
  | [] => return false
  | c :: letters => do
    if c ≠ 'o' then setOption c value
    let more ← setLetters value letters
    return c == 'o' || more

/-- Sets options; gives the arguments that follow, if there are any or they are to be none. -/
def setOptions : List Raw → Act (Option (List Raw))
  | [] => return none
  | "--" :: args => return some args
  | "-" :: args => do
    setOption 'x' false
    setOption 'v' false
    return if args.isEmpty then none else some args
  | arg :: args => do
    let value : Option (Bool × List Char) := match arg.toList with
      | '-' :: letters => some (true, letters)
      | '+' :: letters => some (false, letters)
      | _ => none
    match value with
    | none => return some (arg :: args)
    | some (value, letters) =>
      if ← setLetters value letters then
        match args with
        | [] =>
          listOptions value
          return none
        | name :: args =>
          setNamedOption name value
          setOptions args
      else setOptions args

/-- Sets options and arguments, or lists the variables. -/
def setShell : Builtin := fun args => do
  if args.isEmpty then listVariables "" fun v => v.value.isSome
  else
    match ← setOptions args with
    | some arguments => modify fun m => { m with arguments, optionOffset := 0 }
    | none => pure ()
  return 0

/-! ### Reading -/

/-- The characters of a line, each with whether a backslash stood before it, how many
characters were read, and whether the line has an end. A line may go on after a backslash. -/
def lineOf (escapes : Bool) : List Char → Pattern × Nat × Bool
  | [] => ([], 0, false)
  | '\n' :: _ => ([], 1, true)
  | '\x00' :: rest =>
    let (line, count, isWhole) := lineOf escapes rest
    (line, count + 1, isWhole)
  | '\\' :: c :: rest =>
    if escapes then
      let (line, count, isWhole) := lineOf escapes rest
      (if c = '\n' then line else (c, true) :: line, count + 2, isWhole)
    else
      let (line, count, isWhole) := lineOf escapes (c :: rest)
      (('\\', false) :: line, count + 1, isWhole)
  | c :: rest =>
    let (line, count, isWhole) := lineOf escapes rest
    (if c = '\\' ∧ escapes then line else (c, false) :: line, count + 1, isWhole)

/-- The last field of a line: without the separators that follow it, if no others follow
these than blanks; else it goes on to the end of the line, but for the blanks there. -/
def lastField (separators : List Char) : (afterBlank : Bool) → (kept ending : List Char) →
    Pattern → List Char
  | _, kept, _, [] => kept
  | afterBlank, kept, ending, (c, quoted) :: rest =>
    let isSeparator := !quoted && separators.contains c
    if isSeparator ∧ isSoftSeparator c then
      lastField separators afterBlank kept (ending ++ [c]) rest
    else if isSeparator ∧ afterBlank then
      lastField separators false kept (ending ++ [c]) rest
    else lastField separators false (kept ++ ending ++ [c]) [] rest

/-- The fields of a line, of which there are at most so many; the characters of the one that
has been begun are given, and whether a blank has ended the one before. -/
def lineFields (separators : List Char) : Nat → (begun : List Char) → (afterBlank : Bool) →
    Pattern → List Raw
  | _, begun, _, [] => [String.ofList begun]
  | count, begun, afterBlank, (c, quoted) :: rest =>
    let isSeparator := !quoted && separators.contains c
    if afterBlank ∧ isSeparator then
      lineFields separators count begun (isSoftSeparator c) rest
    else if ¬ isSeparator then lineFields separators count (begun ++ [c]) false rest
    else if begun.isEmpty ∧ isSoftSeparator c then
      lineFields separators count begun false rest
    else if count ≤ 1 then
      [String.ofList (lastField separators (isSoftSeparator c) begun [c] rest)]
    else String.ofList begun :: lineFields separators (count - 1) [] (isSoftSeparator c) rest

/-- Gives variables the values at the same places; those without one get the empty text. -/
def assignAll : List String → List Raw → Act Unit
  | [], _ => return ()
  | name :: names, values => do
    assign name (values.headD "")
    assignAll names (values.drop 1)

/-- Reads a line of the input into variables. -/
def readLine : Builtin := fun args => do
  let (options, names) ← optionsOf "p:r".toList args
  if names.isEmpty then fail "arg count"
  let m ← get
  let text := match m.streams.lookup 0 with
    | some number => ((m.world.unread number).toOption.getD "")
    | none => ""
  let (line, count, isWhole) := lineOf (!options.any (·.1 = 'r')) text.toList
  match m.streams.lookup 0 with
  | some number => modify fun m => { m with world := m.world.advance number count }
  | none => return 1
  assignAll names (lineFields m.separators names.length [] false line)
  return if isWhole then 0 else 1

/-! ### Options of scripts -/

/-- Takes the next option of the script, or of the arguments that are given. -/
def takeOption : Builtin := fun args => do
  match args with
  | known :: name :: given =>
    let m ← get
    let words := if given.isEmpty then m.arguments else given
    let index := max 1 (((m.valueOf? "OPTIND").bind integer?).getD 1).toNat
    let current := if 2 ≤ index then words[index - 2]?.getD "" else ""
    let letters := if m.optionOffset = 0 then [] else current.toList.drop m.optionOffset
    let finish (index offset : Nat) (letter : Char) (status : Nat) : Act Nat := do
      assign "OPTIND" (Nat.repr index)
      assign name (String.singleton letter)
      modify fun m => { m with optionOffset := offset }
      return status
    let next := words[index - 1]?.map String.toList
    let found : Option (List Char × Nat) :=
      if letters ≠ [] then some (letters, index)
      else match next with
        | some ('-' :: c :: rest) => some (c :: rest, index + 1)
        | _ => none
    match found with
    | none => finish index 0 '?' 1
    | some (['-'], index) =>
      if letters = [] then finish index 0 '?' 1 else takeLetter known.toList words index '-' [] finish
    | some (letter :: rest, index) => takeLetter known.toList words index letter rest finish
    | some ([], index) => finish index 0 '?' 1
  | _ => fail "Usage: getopts optstring var [arg...]"
where
  /-- Takes a letter, with the argument that it is in and what follows it there. -/
  takeLetter (known : List Char) (words : List Raw) (index : Nat) (letter : Char)
      (rest : List Char) (finish : Nat → Nat → Char → Nat → Act Nat) : Act Nat := do
    let isSilent := known.head? == some ':'
    let offset := (words[index - 2]?.getD "").length - rest.length
    let offset := if rest.isEmpty then 0 else offset
    let complain (message : Raw) (shown : Char) : Act Nat := do
      if isSilent then
        assign "OPTARG" (String.singleton letter)
        finish index offset shown 0
      else
        emit 2 message
        changeVariable "OPTARG" fun _ => none
        finish index offset '?' 0
    match allowance? letter (if isSilent then known.drop 1 else known) with
    | none => complain ("Illegal option -" ++ String.singleton letter ++ "\n") '?'
    | some false =>
      assign "OPTARG" ""
      finish index offset letter 0
    | some true =>
      if rest ≠ [] then
        assign "OPTARG" (String.ofList rest)
        finish index 0 letter 0
      else match words[index - 1]? with
        | some value =>
          assign "OPTARG" value
          finish (index + 1) 0 letter 0
        | none => complain ("No arg for -" ++ String.singleton letter ++ " option\n") ':'

/-! ### Directories -/

/-- The path of a place. -/
def placePath (place : Location) : Raw :=
  Raw.ofText ("/" ++ "/".intercalate place)

/-- Works in another directory from now on. -/
def changeDirectory : Builtin := fun args => do
  let (_, args) ← flagsOf "LP" args
  let m ← get
  let target := match args.head? with
    | none => (m.valueOf? "HOME").getD ""
    | some "-" => (m.valueOf? "OLDPWD").getD ""
    | some target => target
  let path : Path := ⟨if target = "" then "." else Raw.toText target⟩
  let files := { m.world.files with current := m.directory }
  match files.look path, files.locate path with
  | .ok .directory, .ok place =>
    set { m with directory := place }
    let visible (name : String) (value : Raw) : Act Unit := do
      assign name value
      modify fun m => m.putVariable name
        ((m.bindings.lookup name).map fun v => { v with isExported := true })
    visible "OLDPWD" ((m.valueOf? "PWD").getD "")
    visible "PWD" (placePath place)
    if args.head? = some "-" then emit 1 (placePath place ++ "\n")
    return 0
  | _, _ => fail ("can't cd to " ++ target)

/-- Writes the directory that the shell works in. -/
def writeDirectory : Builtin := fun args => do
  let _ ← flagsOf "LP" args
  emit 1 (placePath (← get).directory ++ "\n")
  return 0

/-! ### Permissions -/

/-- The permissions in the order of their letters. -/
def permissionLetters (bits : Nat) : String :=
  String.ofList ((if bits.testBit 2 then ['r'] else []) ++
    (if bits.testBit 1 then ['w'] else []) ++ (if bits.testBit 0 then ['x'] else []))

/-- Tells or sets the permissions that new files do not get. -/
def setMask : Builtin := fun args => do
  let (flags, args) ← flagsOf "S" args
  let mask := (← get).mask
  match args with
  | [] =>
    if flags.isEmpty then
      let digits := Nat.toDigits 8 mask
      emit 1 (String.ofList (List.replicate (4 - digits.length) '0' ++ digits ++ ['\n']))
    else
      let given := 0o777 - mask
      emit 1 ("u=" ++ permissionLetters (given / 64) ++ ",g=" ++
        permissionLetters (given / 8 % 8) ++ ",o=" ++ permissionLetters (given % 8) ++ "\n")
  | arg :: _ =>
    if arg.toList.head?.any Char.isDigit then
      if arg.toList.all fun c => '0' ≤ c && c ≤ '7' then
        modify fun m => { m with mask := Nat.ofDigitChars 8 arg.toList 0 % 0o1000 }
      else fail ("Illegal number: " ++ arg)
    else fail ("Illegal mode: " ++ arg)
  return 0

/-! ### Signals -/

/-- Lists what is done on signals, or sets it. -/
def setTraps : Builtin := fun args => do
  let (_, args) ← flagsOf "" args
  match args with
  | [] =>
    let order (name : String) : Nat := (Signal.number? name).getD 0
    let sorted := (← get).traps.mergeSort fun a b => order a.1 ≤ order b.1
    sorted.forM fun (name, action) =>
      emit 1 ("trap -- " ++ inQuotes action ++ " " ++ name ++ "\n")
    return 0
  | first :: others =>
    let isNumber := first ≠ "" ∧ first.toList.all Char.isDigit ∧ (Signal.number? first).isSome
    let (action, signals) : Option Raw × List Raw :=
      if others.isEmpty ∨ isNumber then (none, args)
      else (if first = "-" then none else some first, others)
    setAll action signals
where
  /-- Sets what is done on signals, up to one that is not known. -/
  setAll (action : Option Raw) : List Raw → Act Nat
    | [] => return 0
    | signal :: signals => do
      match (Signal.number? signal).bind Signal.name? with
      | some name =>
        modify fun m =>
          let others := m.traps.filter (·.1 ≠ name)
          { m with traps := (action.toList.map fun a => (name, a)) ++ others }
        setAll action signals
      | none =>
        emit 2 ("trap: " ++ signal ++ ": bad trap\n")
        return 1

/-- Sends a signal to a process; tells whether there is such a process. What it does to the
shell itself is seen to when the command has ended. -/
def send (signal process : Nat) : Act Bool := do
  let m ← get
  if process = m.process then
    if signal ≠ 0 then
      set { m with world := { m.world with sent := m.world.sent ++ [(process, signal)] } }
    return true
  else return m.background.any (·.1 = process)

/-- Sends signals to processes, or lists the names of signals. -/
def kill : Builtin := fun args => do
  let usage {α : Type} : Act α := fail
    "Usage: kill [-s sigspec | -signum | -sigspec] [pid | job]... or\nkill -l [exitstatus]"
  let named (text : Raw) : Act Nat := do
    match Signal.number? text with
    | some signal => return signal
    | none => fail ("invalid signal number or name: " ++ text)
  if args.isEmpty then usage
  let given := args.head?.bind fun arg =>
    match arg.toList with
    | '-' :: name => if name = [] then none else Signal.number? (String.ofList name)
    | _ => none
  let (lists, signal, processes) : Bool × Option Nat × List Raw ← match given with
    | some signal => pure (false, some signal, args.drop 1)
    | none => do
      let (options, rest) ← optionsOf "ls:".toList args
      let signal ← (options.filter (·.1 = 's')).getLast?.mapM fun o => named o.2
      pure (options.any (·.1 = 'l'), signal, rest)
  if lists then
    match processes with
    | [] => emit 1 (String.join (("0" :: Signal.names).map (· ++ "\n")))
    | status :: _ =>
      let n ← number status
      let n := if 128 < n then n - 128 else n
      match if n = 0 then none else Signal.name? n with
      | some name => emit 1 (name ++ "\n")
      | none => fail ("invalid signal number or exit status: " ++ status)
    return 0
  else if processes.isEmpty then usage
  else sendAll (signal.getD 15) processes
where
  /-- Sends a signal to processes; the status tells whether all are there. -/
  sendAll (signal : Nat) : List Raw → Act Nat
    | [] => return 0
    | process :: processes => do
      match process.toList with
      | '%' :: _ => fail ("No such job: " ++ process)
      | '-' :: rest =>
        let _ ← number (String.ofList rest)
        warn "No such process\n"
        let _ ← sendAll signal processes
        return 1
      | _ =>
        let isThere ← send signal (← number process)
        if ¬ isThere then warn "No such process\n"
        let status ← sendAll signal processes
        return if isThere then status else 1

/-- Waits for commands in the background, which have ended already. -/
def waitFor : Builtin := fun args => do
  let (_, args) ← flagsOf "" args
  args.foldlM (fun _ process => do
    let n ← number process
    return ((← get).background.lookup n).getD 127) 0

/-! ### Short names -/

/-- Lists, tells or sets short names. -/
def setAliases : Builtin := fun args => do
  let line (name : String) (value : Raw) : Raw := name ++ "=" ++ inQuotes value ++ "\n"
  if args.isEmpty then
    (← get).aliases.forM fun (name, value) => emit 1 (line name value)
  args.foldlM (fun status arg => do
    match splitAssignment arg with
    | (name, some value) =>
      modify fun m => { m with aliases := (name, value) :: m.aliases.filter (·.1 ≠ name) }
      return status
    | (name, none) =>
      match (← get).aliases.lookup name with
      | some value =>
        emit 1 (line name value)
        return status
      | none =>
        emit 2 ("alias: " ++ name ++ " not found\n")
        return 1) 0

/-- Forgets short names. -/
def dropAliases : Builtin := fun args => do
  let (flags, args) ← flagsOf "a" args
  if ¬ flags.isEmpty then modify fun m => { m with aliases := [] }
  args.foldlM (fun status name => do
    let m ← get
    if m.aliases.any (·.1 = name) then
      set { m with aliases := m.aliases.filter (·.1 ≠ name) }
      return status
    else
      emit 2 ("unalias: " ++ name ++ " not found\n")
      return 1) 0

/-! ### Leaving -/

/-- Ends the script. -/
def exit : Builtin := fun args => do
  let status ← match args with
    | [] => do
      let m ← get
      pure (m.leaving.getD m.status)
    | arg :: _ => number arg
  modify fun m => { m with status, leaving := m.leaving.map fun _ => status }
  throw .exit

/-- Ends a function or a script that was read in. -/
def leave : Builtin := fun args => do
  match args with
  | [] => throw .returned
  | arg :: _ =>
    setStatus (← number arg)
    throw .returned

/-- Ends loops, or goes on with the next round of one. -/
def leaveLoops (stop : Nat → Stop) : Builtin := fun args => do
  let levels ← match args with
    | [] => pure 1
    | arg :: _ => do
      let n ← number arg
      if n = 0 then fail ("Illegal number: " ++ arg)
      pure n
  let loops := (← get).loops
  setStatus 0
  if loops = 0 then return 0
  throw (stop (min levels loops))

/-! ### Programs -/

/-- The programs that there are. -/
def programs : List String :=
  ["cat", "dash", "echo", "false", "printf", "sed", "sh", "true"]

/-- The directories that the programs are in. -/
def programDirectories : List Path :=
  [⟨"/usr/bin"⟩, ⟨"/bin"⟩]

/-- The path of a program that is looked for by its name. -/
def Machine.findProgram? (m : Machine) (name : String) : Option Raw :=
  if ¬ programs.contains name then none
  else
    (((m.valueOf? "PATH").getD "").splitOn ":").findSome? fun directory =>
      if programDirectories.any (·.same ⟨Raw.toText directory⟩) then
        some (directory ++ "/" ++ name)
      else none

/-- The program that is at a path. -/
def programAt? (path : Raw) : Option String :=
  programs.find? fun name =>
    programDirectories.any fun directory =>
      (directory.join ⟨name⟩).same ⟨Raw.toText path⟩

/-! ### The commands -/

/-- The commands that run other commands. -/
def runningCommands : List String :=
  [".", "command", "eval", "exec"]

/-- The commands of the shell, by their names. -/
def builtins : List (String × Builtin) :=
  let constant (status : Nat) : Builtin := fun _ => return status
  let condition (args : List Raw) : Act Nat := do
    let m ← get
    match Condition.evaluate { world := m.world, directory := m.directory } args with
    | .ok true => return 0
    | .ok false => return 1
    | .error message => fail message
  [("echo", fun args => do echo args; return 0), ("printf", printFormatted),
    ("test", condition),
    ("[", fun args => do
      if args.getLast? = some "]" then condition args.dropLast else fail "missing ]"),
    ("true", constant 0), ("false", constant 1), (":", constant 0),
    ("export", markVariables "export" (fun v => { v with isExported := true })
      (·.isExported)),
    ("readonly", markVariables "readonly" (fun v => { v with isReadOnly := true })
      (·.isReadOnly)),
    ("local", makeLocal), ("unset", forget), ("shift", shift), ("set", setShell),
    ("read", readLine), ("getopts", takeOption), ("cd", changeDirectory),
    ("chdir", changeDirectory), ("pwd", writeDirectory), ("umask", setMask),
    ("trap", setTraps), ("kill", kill), ("wait", waitFor), ("alias", setAliases),
    ("unalias", dropAliases), ("exit", exit), ("return", leave),
    ("break", leaveLoops .broken), ("continue", leaveLoops .continued),
    ("times", fun _ => do
      let line := "0m0.000000s 0m0.000000s\n"
      emit 1 (line ++ line)
      return 0),
    ("jobs", constant 0), ("fg", fun _ => fail "No current job"),
    ("bg", fun _ => fail "No current job"),
    ("ulimit", fun _ => do emit 1 "unlimited\n"; return 0)]

/-! ### Telling what a name is -/

/-- What a name stands for in a script. -/
inductive Meaning where
  | keyword
  | shortName (text : Raw)
  | function
  | builtin (isSpecial : Bool)
  | program (path : Raw) (isHashed : Bool)

/-- What a name stands for in a script. -/
def Machine.meaning? (m : Machine) (name : Raw) : Option Meaning :=
  if Token.keywords.contains name then some .keyword
  else match m.aliases.lookup name with
    | some text => some (.shortName text)
    | none =>
      if name.toList.contains '/' then
        if (programAt? name).isSome ∨
            (m.world.look m.directory ⟨Raw.toText name⟩).toBool then
          some (.program name false)
        else none
      else if m.functions.any (·.1 = name) then some .function
      else if ["command", "type", "hash"].contains name ∨ runningCommands.contains name ∨
          (builtins.lookup name).isSome then
        some (.builtin (specialCommands.contains name))
      else (m.findProgram? name).map fun path => .program path (m.hashed.contains name)

/-- Remembers a program that has been looked up. -/
def remember (name : String) : Act Unit :=
  modify fun m =>
    if m.hashed.contains name ∨ (m.findProgram? name).isNone then m
    else { m with hashed := m.hashed ++ [name] }

/-- Tells what a name is, in a sentence or as the shell would be given it; gives the status. -/
def describe (inWords : Bool) (name : Raw) : Act Nat := do
  let say (sentence short : Raw) : Act Nat := do
    emit 1 ((if inWords then name ++ sentence else short) ++ "\n")
    return 0
  match (← get).meaning? name with
  | some .keyword => say " is a shell keyword" name
  | some (.shortName text) =>
    say (" is an alias for " ++ text) ("alias " ++ name ++ "=" ++ inQuotes text)
  | some .function => say " is a shell function" name
  | some (.builtin isSpecial) =>
    say (if isSpecial then " is a special shell builtin" else " is a shell builtin") name
  | some (.program path isHashed) =>
    remember name
    say (if isHashed then " is a tracked alias for " ++ path else " is " ++ path) path
  | none =>
    if inWords then emit 1 (name ++ ": not found\n")
    return 127

/-- Tells what names are. -/
def tellTypes : Builtin := fun args =>
  args.foldlM (fun status name => do
    let s ← describe true name
    return max status s) 0

/-- Lists the programs that have been looked up, or looks them up. -/
def hash : Builtin := fun args => do
  let (flags, names) ← flagsOf "r" args
  if ¬ flags.isEmpty then modify fun m => { m with hashed := [] }
  else if names.isEmpty then
    let m ← get
    m.hashed.forM fun name => emit 1 ((m.findProgram? name).getD name ++ "\n")
  names.foldlM (fun status name => do
    let m ← get
    match m.meaning? name with
    | some (.program ..) =>
      remember name
      return status
    | some _ => return status
    | none =>
      warn (name ++ ": not found")
      return 1) 0

/-- The command of the shell with a name. -/
def builtin? (name : String) : Option Builtin :=
  match name with
  | "type" => some tellTypes
  | "hash" => some hash
  | name => builtins.lookup name

end LintHost.Shell
