import LintHost.Shell.Builtins
import LintHost.Shell.StreamEditor

/-!
# Running scripts

Commands are run one after the other. What a shell runs beside itself, the commands of a
pipeline, those in parentheses and in the background, and those whose output is put into a
word, are *parts* of it: copies of the shell that share the world with it and end without a
trace in it. A part runs to its end before anything else does, so the commands of a pipeline
run in order, each with all that the one before it has written.

A command may be *tested*: it decides how the script goes on, so its failure does not end a
script that ends at failures.

All functions that run something recurse on fuel; a script that uses it up is ended by a
signal, as one is that nobody reads from any more.
-/

namespace LintHost.Shell

/-- The signal that ends what nobody reads from. -/
def brokenPipe : Nat := 13

/-! ### Stops -/

/-- Runs an action, and tells why it stopped if it did. -/
def caught (action : Act Unit) : Act (Option Stop) :=
  tryCatch (do action; return none) fun stop => return some stop

/-- Goes on as the action did that stopped, if it stopped. -/
def resume : Option Stop → Act Unit
  | some stop => throw stop
  | none => return ()

/-- Runs an action as a command of the shell with a name. -/
def asCommand (name : String) (action : Act Unit) : Act (Option Stop) := do
  let before := (← get).command
  modify fun m => { m with command := some name }
  let stop ← caught action
  modify fun m => { m with command := before }
  return stop

/-! ### Redirections -/

/-- A redirection whose target is known. -/
inductive Route where
  | file (stream : Nat) (mode : FileMode) (path : Raw)
  /-- The stream goes where another one goes, or is closed. -/
  | duplicate (stream : Nat) (other : Option Nat)
  | document (stream : Nat) (text : Word)

/-- The route of a redirection. -/
def Redirection.route (outputOf : OutputOf) : Redirection → Act Route
  | .file stream mode target => return .file stream mode (← wholeText outputOf target)
  | .duplicate stream target => do
    match (← wholeText outputOf target).toList with
    | ['-'] => return .duplicate stream none
    | [d] =>
      if d.isDigit then return .duplicate stream (some (d.toNat - '0'.toNat))
      else fail Fault.badStreamNumber.message
    | _ => fail Fault.badStreamNumber.message
  | .document stream number =>
    return .document stream (((← get).documents.lookup number).getD [])

/-- The shell with an open file for a stream, or with the stream closed. -/
def Machine.aim (m : Machine) (stream : Nat) (file : Option Nat) : Machine :=
  let others := m.streams.filter (·.1 ≠ stream)
  { m with streams := (file.toList.map fun file => (stream, file)) ++ others }

/-- How a file is opened. -/
def FileMode.opening (mode : FileMode) (keepsFiles : Bool) : World.Opening :=
  match mode with
  | .input => { reads := true }
  | .output => { writes := true, truncates := true, mustBeNew := keepsFiles }
  | .clobber => { writes := true, truncates := true }
  | .appended => { writes := true, appends := true }
  | .both => { reads := true, writes := true }

/-- Opens a file; gives its number. -/
def openFile (mode : FileMode) (path : Raw) : Act Nat := do
  let m ← get
  let refuse (e : SystemError) : Act Nat :=
    if mode = .input then
      fail ("cannot open " ++ path ++ ": " ++
        if e = .notFound ∨ e = .notADirectory then "No such file" else e.reason)
    else
      fail ("cannot create " ++ path ++ ": " ++
        if e = .notFound ∨ e = .notADirectory then "Directory nonexistent" else e.reason)
  match World.device? ⟨Raw.toText path⟩ with
  | some (.stream stream) =>
    match m.streams.lookup stream with
    | some number => return number
    | none => refuse .notFound
  | _ =>
    match m.world.openPath m.directory ⟨Raw.toText path⟩ (mode.opening (m.hasOption 'C')) with
    | .ok (number, world) =>
      set { m with world }
      return number
    | .error e => refuse e

/-- Opens a channel that holds a text; gives its number. -/
def openText (text : Raw) : Act Nat :=
  modifyGet fun m =>
    let (channel, world) := m.world.addChannel
    let (writer, world) := world.add { medium := .channel channel, canWrite := true }
    let (reader, world) :=
      (world.write writer text).add { medium := .channel channel, canRead := true }
    (reader, { m with world })

/-- Follows a route. -/
def Route.follow (outputOf : OutputOf) : Route → Act Unit
  | .file stream mode path => do
    let number ← openFile mode path
    modify fun m => m.aim stream (some number)
  | .duplicate stream none => modify fun m => m.aim stream none
  | .duplicate stream (some other) => do
    match (← get).streams.lookup other with
    | some number => modify fun m => m.aim stream (some number)
    | none => if stream ≠ other then fail (Nat.repr other ++ ": Bad file descriptor")
  | .document stream word => do
    let text ← wordAtoms outputOf false false word
    let number ← openText (Atom.text text)
    modify fun m => m.aim stream (some number)

/-- Follows the routes of redirections; tells whether that was possible. -/
def redirect (outputOf : OutputOf) (redirections : List Redirection) : Act Bool := do
  let routes ← redirections.mapM (Redirection.route outputOf)
  match ← caught (routes.forM (Route.follow outputOf)) with
  | none => return true
  | some .failed => return false
  | some stop => throw stop

/-! ### Words of a command -/

/-- The command that words run, behind `command` and its options. -/
def bareCommand : List Raw → List Raw
  | "command" :: words => bareCommand (words.dropWhile fun w => w.toList.head? == some '-')
  | words => words
termination_by words => words.length
decreasing_by
  have := (words.dropWhile_sublist fun w => w.toList.head? == some '-').length_le
  simp only [List.length_cons]
  omega

/-- The commands whose arguments may be assignments. -/
def assigningCommands : List String :=
  ["alias", "export", "local", "readonly"]

/-- The fields of words, after those of other words. An argument that is an assignment is not
split. -/
def expandWords (outputOf : OutputOf) : List Raw → List Word → Act (List Raw)
  | done, [] => return done
  | done, word :: words => do
    let m ← get
    let assigns : Bool := match bareCommand done with
      | name :: _ => assigningCommands.contains name && !m.functions.any (·.1 == name)
      | [] => false
    match if assigns then Reading.assignment? word else none with
    | some (name, value) =>
      let value ← assignedText outputOf value
      expandWords outputOf (done ++ [name ++ "=" ++ value]) words
    | none =>
      let more ← fields outputOf word
      expandWords outputOf (done ++ more) words

/-- The words after `command` and its options that say how to run it; none if the options say
that nothing is to be run. -/
def behindCommand : List Raw → Option (List Raw)
  | [] => none
  | "--" :: words => if words.isEmpty then none else some words
  | "-" :: words => some ("-" :: words)
  | word :: words =>
    match word.toList with
    | '-' :: letters => if letters.all (· = 'p') then behindCommand words else none
    | _ => some (word :: words)

/-- Gives variables their values for the time of a command. -/
def assignForNow (outputOf : OutputOf) (name : String) (value : Word) : Act Raw := do
  let value ← assignedText outputOf value
  assign name value
  modify fun m => m.putVariable name
    ((m.bindings.lookup name).map fun v => { v with isExported := true })
  return value

/-- Gives variables the values that they had. -/
def restoreVariables (kept : List (String × Option Variable)) : Act Unit :=
  modify fun m => kept.foldl (fun m (name, v) => m.putVariable name v) m

/-- Tells what a name is, for `command` with its options. -/
def describeFor (args : List Raw) : Act Nat := do
  let (flags, args) ← flagsOf "pvV" args
  match flags.filter (· ≠ 'p'), args with
  | flag :: more, name :: _ => describe ((flag :: more).contains 'V') name
  | _, _ => return 0

/-! ### Programs -/

/-- The variables that a shell starts with. -/
def startVariables (environment : List (String × Raw)) (directory : Location) :
    List (String × Variable) :=
  let plain (name : String) (value : Raw) : String × Variable := (name, { value := some value })
  let given := (environment.filter fun e => isName e.1 && e.1 != "PWD").map fun (name, value) =>
    (name, ({ value := some value, isExported := true } : Variable))
  let isGiven (name : String) : Bool := given.any (·.1 == name)
  let defaults := [plain "PS1" "$ ", plain "PS2" "> ", plain "PS4" "+ ",
    plain "PATH" "/usr/local/sbin:/usr/local/bin:/usr/sbin:/usr/bin:/sbin:/bin"]
  given.filter (fun v => v.1 != "IFS" && v.1 != "OPTIND") ++
    defaults.filter (fun v => !isGiven v.1) ++
    [plain "IFS" " \t\n", plain "OPTIND" "1",
      ("PWD", { value := some (placePath directory), isExported := true })]

/-- A shell as it starts: with the streams, the directory and the environment of the one that
starts it. -/
def Machine.start (m : Machine) (name : Raw) : Machine where
  world := { m.world with nextProcess := m.world.nextProcess + 1 }
  streams := m.streams
  directory := m.directory
  name := name
  bindings := startVariables m.environment m.directory
  line := 0
  process := m.world.nextProcess
  mask := m.mask

/-- The options that a shell is started with, whether its script is an argument, and the other
arguments. -/
def startOptions : List Raw → Act (Bool × List Raw)
  | [] => return (false, [])
  | "--" :: args | "-" :: args => return (false, args)
  | arg :: args => do
    let value : Option (Bool × List Char) := match arg.toList with
      | '-' :: letters => some (true, letters)
      | '+' :: letters => some (false, letters)
      | _ => none
    match value with
    | none => return (false, arg :: args)
    | some (value, letters) =>
      let hasScript := letters.contains 'c'
      let takesName ← setLetters value (letters.filter (· ≠ 'c'))
      match takesName, args with
      | true, name :: args =>
        setNamedOption name value
        let (more, rest) ← startOptions args
        return (hasScript || more, rest)
      | _, args =>
        let (more, rest) ← startOptions args
        return (hasScript || more, rest)

/-- The tools that are programs of their own, apart from the shell; what they run as a script
is run by the given function. -/
def tool? (runScript : Raw → Act Raw) : String → Option Tool
  | "cat" => some cat
  | "echo" => some plainEcho
  | "false" => some fun _ _ => return 1
  | "printf" => some plainPrintf
  | "sed" => some (sed runScript)
  | "true" => some fun _ _ => return 0
  | _ => none

/-! ### Commands -/

/-- Waits for a part of the shell that has been run: takes over its status, and reports the
signal that ended it. -/
def settle (result : Nat × Option Nat) : Act Unit := do
  setStatus result.1
  match result.2 with
  | some signal => if Signal.report signal ≠ "" then emit 2 (Signal.report signal ++ "\n")
  | none => return ()

mutual

/-- Runs an action to its end in a part of the shell; gives the status it ended with, and the
signal that ended it, if one did. -/
def part : Nat → Act Unit → Act (Nat × Option Nat)
  | 0, _ => throw (.killed brokenPipe)
  | fuel + 1, action => do
    let shell ← get
    set { shell with isPart := true, traps := shell.traps.filter (·.2 = "") }
    let stop ← caught (finish fuel action)
    let ended ← get
    set { shell with world := ended.world }
    match stop with
    | some (.killed signal) => return (128 + signal, some signal)
    | _ => return (ended.status % 256, none)

/-- Runs an action to its end, and what is to be done at the end. -/
def finish : Nat → Act Unit → Act Unit
  | 0, _ => throw (.killed brokenPipe)
  | fuel + 1, action => do
    match ← caught action with
    | some (.killed signal) => throw (.killed signal)
    | _ =>
      let m ← get
      match m.traps.lookup "EXIT" with
      | none => return ()
      | some text =>
        set { m with
          traps := m.traps.filter (·.1 ≠ "EXIT"), command := none, leaving := some m.status }
        match ← caught (runText fuel false text) with
        | some (.killed signal) => throw (.killed signal)
        | _ => modify fun ended => { ended with status := ended.leaving.getD m.status }

/-- The output of commands that are put into a word. -/
def outputOf : Nat → OutputOf
  | 0, _ | _, none => return ""
  | fuel + 1, some command => do
    let (channel, writer) ← modifyGet fun (m : Machine) =>
      let (channel, world) := m.world.addChannel
      let (writer, world) := world.add { medium := .channel channel, canWrite := true }
      ((channel, writer), { m with world })
    let before := (← get).status
    let result ← part fuel do
      modify fun m => m.aim 1 (some writer)
      run fuel false command
    settle result
    modify fun m => { m with substituted := result.1, status := before }
    return String.ofList (((← get).world.channel channel).toList.filter (· ≠ '\x00'))

/-- The output of a script that another shell runs. -/
def outputOfScript : Nat → Raw → Act Raw
  | 0, _ => return ""
  | fuel + 1, text => do
    let (channel, writer) ← modifyGet fun (m : Machine) =>
      let (channel, world) := m.world.addChannel
      let (writer, world) := world.add { medium := .channel channel, canWrite := true }
      ((channel, writer), { m with world })
    let _ ← part fuel do
      modify fun m => (m.aim 1 (some writer)).start "sh"
      runShell fuel ["-c", text]
    return (← get).world.channel channel

/-- Does what is to be done on the signals that the shell has been sent. -/
def heedSignals : Nat → Act Unit
  | 0 => return ()
  | fuel + 1 => do
    let m ← get
    let isMine (s : Nat × Nat) : Bool := s.1 == m.process
    match if m.isPart then none else m.world.sent.find? isMine with
    | none => return ()
    | some (process, signal) =>
      set { m with world := { m.world with sent := m.world.sent.erase (process, signal) } }
      let action := ((Signal.name? signal).bind fun name => m.traps.lookup name).filter
        fun _ => !Signal.isFinal signal
      match action with
      | none => if ¬ Signal.isHarmless signal then throw (.killed signal)
      | some "" => pure ()
      | some text =>
        let before := (← get).leaving
        modify fun m => { m with leaving := some m.status }
        runText fuel false text
        modify fun ended => { ended with status := m.status, leaving := before }
      heedSignals fuel

/-- Runs a command. -/
def run : Nat → (tested : Bool) → Command → Act Unit
  | 0, _, _ => throw (.killed brokenPipe)
  | fuel + 1, tested, command => do
    if (← get).hasOption 'n' then return ()
    let checks : Bool ← match command with
      | .simple line assignments words redirections => do
        runSimple fuel tested line assignments words redirections
        pure true
      | .pipeline commands => do
        runPipeline fuel tested none commands
        pure true
      | .subshell line body redirections => do
        modify fun m => { m with line }
        let result ← part fuel do
          if ← redirect (outputOf fuel) redirections then run fuel tested body
          else setStatus 2
        settle result
        pure true
      | .background command => do
        let (process, input) ← modifyGet fun (m : Machine) =>
          let (input, world) := m.world.add { medium := .nothing, canRead := true }
          ((world.nextProcess, input),
            { m with world := { world with nextProcess := world.nextProcess + 1 } })
        let result ← part fuel do
          modify fun m => m.aim 0 (some input)
          run fuel false command
        modify fun m => { m with
          status := 0, background := (process, result.1) :: m.background }
        pure false
      | .negated command => do
        run fuel true command
        modify fun m => { m with status := if m.status = 0 then 1 else 0 }
        pure false
      | .sequence first second => do
        run fuel tested first
        run fuel tested second
        pure false
      | .conjunction first second => do
        run fuel true first
        if (← get).status = 0 then run fuel tested second
        pure false
      | .disjunction first second => do
        run fuel true first
        if (← get).status ≠ 0 then run fuel tested second
        pure false
      | .group line body redirections => do
        modify fun m => { m with line }
        let before := (← get).streams
        let restore : Act Unit := modify fun m => { m with streams := before }
        if ← redirect (outputOf fuel) redirections then
          let stop ← caught (run fuel tested body)
          restore
          resume stop
        else
          restore
          setStatus 2
        pure false
      | .conditional test success failure => do
        run fuel true test
        if (← get).status = 0 then run fuel tested success
        else match failure with
          | some failure => run fuel tested failure
          | none => setStatus 0
        pure false
      | .repeated untilSuccess test body => do
        modify fun m => { m with loops := m.loops + 1 }
        repeatLoop fuel untilSuccess tested test body 0
        modify fun m => { m with loops := m.loops - 1 }
        pure false
      | .forEach line name words body => do
        modify fun m => { m with line }
        let values ← expandWords (outputOf fuel) [] words
        modify fun m => { m with loops := m.loops + 1 }
        setStatus 0
        runForEach fuel tested name body values
        modify fun m => { m with loops := m.loops - 1 }
        pure false
      | .choice line subject cases => do
        modify fun m => { m with line }
        let subject ← wholeText (outputOf fuel) subject
        choose fuel tested subject cases
        pure false
      | .define _ name body => do
        modify fun m =>
          let others := m.functions.filter (·.1 ≠ name)
          { m with functions := (name, body) :: others, status := 0 }
        pure false
    heedSignals fuel
    let m ← get
    if checks ∧ ¬ tested ∧ m.hasOption 'e' ∧ m.status ≠ 0 then throw .exit

/-- Runs the body of a loop; tells whether the loop goes on. -/
def runRound : Nat → (tested : Bool) → Command → Act Bool
  | 0, _, _ => throw (.killed brokenPipe)
  | fuel + 1, tested, body => do
    let leave (stop : Stop) : Act Bool := do
      modify fun m => { m with loops := m.loops - 1 }
      throw stop
    match ← caught (run fuel tested body) with
    | none => return true
    | some (.broken levels) => if levels ≤ 1 then return false else leave (.broken (levels - 1))
    | some (.continued levels) =>
      if levels ≤ 1 then return true else leave (.continued (levels - 1))
    | some stop => leave stop

/-- Runs a loop whose last round ended with the given status. -/
def repeatLoop : Nat → (untilSuccess tested : Bool) → (test body : Command) → Nat → Act Unit
  | 0, _, _, _, _, _ => throw (.killed brokenPipe)
  | fuel + 1, untilSuccess, tested, test, body, status => do
    if ← runRound fuel true test then
      let succeeded := (← get).status == 0
      if succeeded == untilSuccess then setStatus status
      else if ← runRound fuel tested body then
        repeatLoop fuel untilSuccess tested test body (← get).status
      else return ()
    else setStatus status

/-- Runs the body of a loop for each of some values. -/
def runForEach : Nat → (tested : Bool) → String → Command → List Raw → Act Unit
  | 0, _, _, _, _ => throw (.killed brokenPipe)
  | _, _, _, _, [] => return ()
  | fuel + 1, tested, name, body, value :: values => do
    assign name value
    if ← runRound fuel tested body then runForEach fuel tested name body values
    else return ()

/-- Runs the commands of the first case that a text matches. -/
def choose : Nat → (tested : Bool) → Raw → List (List Word × Option Command) → Act Unit
  | 0, _, _, _ => throw (.killed brokenPipe)
  | _, _, _, [] => setStatus 0
  | fuel + 1, tested, subject, (patterns, body) :: cases => do
    let isMatch ← matchesAny fuel subject patterns
    if isMatch then
      match body with
      | some body => run fuel tested body
      | none => setStatus 0
    else choose fuel tested subject cases

/-- Whether a text matches one of some patterns. -/
def matchesAny : Nat → Raw → List Word → Act Bool
  | 0, _, _ | _, _, [] => return false
  | fuel + 1, subject, pattern :: patterns => do
    let p ← wordPattern (outputOf fuel) pattern
    if p.isMatch subject.toList then return true
    else matchesAny fuel subject patterns

/-- Runs the commands of a pipeline, the first of which may have an input from the one before
it. -/
def runPipeline : Nat → (tested : Bool) → (input : Option Nat) → List Command → Act Unit
  | 0, _, _, _ => throw (.killed brokenPipe)
  | _, _, _, [] => return ()
  | fuel + 1, tested, input, command :: commands => do
    let (writer, reader) ← modifyGet fun (m : Machine) =>
      let (channel, world) := m.world.addChannel
      let (writer, world) := world.add { medium := .channel channel, canWrite := true }
      let (reader, world) := world.add { medium := .channel channel, canRead := true }
      ((writer, reader), { m with world })
    let result ← part fuel do
      modify fun m =>
        let m := if input.isSome then m.aim 0 input else m
        if commands.isEmpty then m else m.aim 1 (some writer)
      run fuel tested command
    settle result
    runPipeline fuel tested (some reader) commands

/-- Runs a simple command. -/
def runSimple : Nat → (tested : Bool) → (line : Nat) → List (String × Word) → List Word →
    List Redirection → Act Unit
  | 0, _, _, _, _, _ => throw (.killed brokenPipe)
  | fuel + 1, tested, line, assignments, words, redirections => do
    modify fun m => { m with line, substituted := 0 }
    let args ← expandWords (outputOf fuel) [] words
    let m ← get
    let isFunction : Bool := match args with
      | name :: _ => m.functions.any (·.1 == name)
      | [] => false
    let isSpecial : Bool := match args with
      | name :: _ => specialCommands.contains name && !isFunction
      | [] => false
    let opened ← redirect (outputOf fuel) redirections
    if ¬ opened then
      setStatus 2
      if isSpecial then throw .failed
      modify fun after => { after with streams := m.streams }
    else
      let lasts : Bool := isSpecial || args.isEmpty
      let kept := assignments.map fun a => (a.1, m.bindings.lookup a.1)
      let values ← assignments.mapM fun (name, value) => do
        if lasts then
          let value ← assignedText (outputOf fuel) value
          assign name value
          if args.head? = some "exec" ∧ 1 < args.length then
            modify fun m => m.putVariable name
              ((m.bindings.lookup name).map fun v => { v with isExported := true })
          return name ++ "=" ++ value
        else return name ++ "=" ++ (← assignForNow (outputOf fuel) name value)
      if (← get).hasOption 'x' then
        let start ← promptText fuel
        modify fun after =>
          let traced := { after with streams := m.streams }
          match traced.sink? 2 with
          | some number =>
            let text := start ++ " ".intercalate (values ++ args) ++ "\n"
            { after with world := after.world.write number text }
          | none => after
      let stop ← caught <| match args with
        | [] => modify fun m => { m with status := m.substituted }
        | name :: args => execute fuel tested true name args
      let restore : Act Unit := do
        if ¬ (args = ["exec"] ∧ ¬ isFunction) then
          modify fun after => { after with streams := m.streams }
        if ¬ lasts then restoreVariables kept
      restore
      match stop with
      | some .failed => if isSpecial ∨ isFunction then throw .failed
      | stop => resume stop

/-- What stands before a command that is shown when it is run. -/
def promptText : Nat → Act Raw
  | 0 => return ""
  | fuel + 1 => do
    let text := ((← get).valueOf? "PS4").getD ""
    let scope : Reading.Scope := { ending := .endOfText, quoted := true, inText := true }
    let read := (Reading.pieces (16 * (text.length + 4)) scope 0).run { rest := text.toList }
    match read with
    | .ok (word, _) => return Atom.text (← wordAtoms (outputOf fuel) false false word)
    | .error _ => return text

/-- Executes a command with its arguments. -/
def execute : Nat → (tested withFunctions : Bool) → Raw → List Raw → Act Unit
  | 0, _, _, _, _ => throw (.killed brokenPipe)
  | fuel + 1, tested, withFunctions, name, args => do
    let m ← get
    let builtin (action : Act Unit) : Act Unit := do
      modify fun m => { m with outputFailed := false }
      let stop ← asCommand name action
      if (← get).outputFailed then
        modify fun m => { m with outputFailed := false, command := some name }
        warn (name ++ ": I/O error")
        modify fun after => { after with command := m.command, status := 1 }
      resume stop
    let functions := if withFunctions then m.functions else []
    match functions.lookup name with
    | some body => callFunction fuel tested body args
    | none =>
      match name with
      | "command" =>
        match behindCommand args with
        | some (name :: args) => execute fuel tested false name args
        | _ => builtin do setStatus (← describeFor args)
      | "eval" => builtin (runText fuel tested (" ".intercalate args))
      | "." => builtin (runFile fuel args)
      | "exec" => builtin do
          let (_, args) ← flagsOf "" args
          match args with
          | [] => setStatus 0
          | name :: args =>
            let found ← launch fuel name args
            match found with
            | some (status, signal) =>
              setStatus status
              modify fun m => { m with traps := [] }
              match signal with
              | some signal => throw (.killed signal)
              | none => throw .exit
            | none => throw .exit
      | name =>
        match builtin? name with
        | some action => builtin do setStatus (← action args)
        | none =>
          match ← launch fuel name args with
          | some result => settle result
          | none => return ()

/-- Runs a program; gives what it ended with. If there is none, there is a message. -/
def launch : Nat → Raw → List Raw → Act (Option (Nat × Option Nat))
  | 0, _, _ => throw (.killed brokenPipe)
  | fuel + 1, name, args => do
    let m ← get
    let refuse (status : Nat) (reason : Raw) : Act (Option (Nat × Option Nat)) := do
      warn (name ++ ": " ++ reason)
      setStatus status
      return none
    let hasSlash := name.toList.contains '/'
    let program := if hasSlash then programAt? name
      else (m.findProgram? name).map fun _ => name
    match program with
    | some program =>
      if ¬ hasSlash then remember program
      match tool? (outputOfScript fuel) program with
      | some tool =>
        let result ← part fuel do setStatus (← tool name args)
        return some result
      | none =>
        let result ← part fuel do
          modify fun m => m.start name
          runShell fuel args
        return some result
    | none =>
      if hasSlash then
        match m.world.look m.directory ⟨Raw.toText name⟩ with
        | .ok _ => refuse 126 "Permission denied"
        | .error e =>
          if e = .notFound ∨ e = .notADirectory then refuse 127 "not found"
          else refuse 126 e.reason
      else refuse 127 (if name = "" then "Permission denied" else "not found")

/-- Calls a function. -/
def callFunction : Nat → (tested : Bool) → Command → List Raw → Act Unit
  | 0, _, _, _ => throw (.killed brokenPipe)
  | fuel + 1, tested, body, args => do
    let m ← get
    set { m with
      arguments := args, loops := 0, locals := [] :: m.locals, optionOffset := 0 }
    let stop ← caught (run fuel tested body)
    modify fun after =>
      let after := (after.locals.headD []).foldl
        (fun after (name, v) => after.putVariable name v) after
      { after with
        arguments := m.arguments, loops := m.loops, locals := m.locals
        optionOffset := m.optionOffset }
    match stop with
    | some .returned => return ()
    | stop => resume stop

/-- Runs the script in a file. -/
def runFile : Nat → List Raw → Act Unit
  | 0, _ => throw (.killed brokenPipe)
  | fuel + 1, args => do
    let (_, args) ← flagsOf "" args
    match args with
    | [] => setStatus 0
    | file :: _ =>
      let m ← get
      let place ←
        if file.toList.contains '/' then pure file
        else
          let candidates := (((m.valueOf? "PATH").getD "").splitOn ":").map fun directory =>
            if directory = "" then file else directory ++ "/" ++ file
          match candidates.find? fun path =>
              match m.world.look m.directory ⟨Raw.toText path⟩ with
              | .ok (.file _) => true
              | _ => false with
          | some path => pure path
          | none => fail (file ++ ": not found")
      let number ← openFile .input place
      let text := ((← get).world.unread number).toOption.getD ""
      modify fun m => { m with command := some place }
      match ← caught (runText fuel false text) with
      | some .returned => return ()
      | stop => resume stop

/-- Runs the commands of a text. -/
def runText : Nat → (tested : Bool) → Raw → Act Unit
  | 0, _, _ => throw (.killed brokenPipe)
  | fuel + 1, tested, text => do
    runLines fuel tested false { rest := text.toList }

/-- Runs the commands that are left of a text, line by line; without any, the status is
zero. -/
def runLines : Nat → (tested ran : Bool) → ReaderState → Act Unit
  | 0, _, _, _ => throw (.killed brokenPipe)
  | fuel + 1, tested, ran, state => do
    let state := { state with nextDocument := (← get).nextDocument }
    match Reading.command?.run state with
    | .error (line, fault) =>
      modify fun m => { m with line }
      fail fault.message
    | .ok ((goesOn, command), state) =>
      modify fun m => { m with
        nextDocument := state.nextDocument, documents := state.documents ++ m.documents }
      let state := { state with documents := [] }
      match command with
      | some command => run fuel tested command
      | none => pure ()
      let ran := ran || command.isSome
      if goesOn then runLines fuel tested ran state
      else if ¬ ran then setStatus 0

/-- Runs a shell that has just started, with its arguments. -/
def runShell : Nat → List Raw → Act Unit
  | 0, _ => throw (.killed brokenPipe)
  | fuel + 1, args =>
    finish fuel do
      let (hasScript, rest) ← startOptions args
      match hasScript, rest with
      | true, [] => fail "-c requires an argument"
      | true, script :: rest =>
        modify fun m => { m with name := rest.headD m.name, arguments := rest.drop 1 }
        runText fuel false script
      | false, rest =>
        if rest.isEmpty then setOption 's' true
        match if (← get).hasOption 's' then none else rest.head? with
        | none =>
          modify fun m => { m with arguments := rest }
          let text ← readInput
          runText fuel false (text.toOption.getD "")
        | some file =>
          modify fun m => { m with arguments := rest.drop 1 }
          let number ← openFile .input file
          modify fun m => { m with name := file }
          runText fuel false (((← get).world.unread number).toOption.getD "")

end

end LintHost.Shell
