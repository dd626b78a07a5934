import LintHost.Shell.StreamEditor.Editor
import LintHost.Shell.StreamEditor.Replacement

/-!
# Running a script of the stream editor

For every line the script is run from its start. A range opens at a line that its first address
selects, and closes at one that its second address selects; a second address that is a number,
or the last line, may close it at once. A first address that is a number opens the range also
at a later line, if its own has been passed over.
-/

namespace LintHost.Shell.StreamEditor

/-! ### Selections -/

/-- The searcher that is meant, which becomes the one used last. -/
def use (searcher : Option Searcher) : Editing Searcher := do
  match searcher.or (← get).searcher with
  | some searcher =>
    modify fun e => { e with searcher := some searcher }
    return searcher
  | none =>
    liftAct (emit 2 ("sed: " ++ (← get).script.complaint ++ "\n"))
    throw 1

/-- Whether an address selects the line. -/
def isSelectedBy : Address → Editing Bool
  | .line n => return n = (← get).line
  | .step first every => do
    let line := (← get).line
    return first ≤ line ∧ (line - first) % every = 0
  | .last => isAtEnd
  | .found searcher => do
    let searcher ← use searcher
    return (searcher.find? (Raw.glyphs (← get).space.text).toArray 0).isSome
  | .further _ | .multiple _ => return false

/-- Whether the line is in a range, and the state of the range after it. -/
def rangeStep (state : RangeState) (start stop : Address) : Editing (Bool × RangeState) := do
  let line := (← get).line
  let startLine? : Option Nat := match start with
    | .line n => some n
    | _ => none
  let closed : RangeState := if startLine?.isSome then .over else .outside
  match state with
  | .over => return (false, .over)
  | .outside =>
    let opens ← match startLine? with
      | some n => pure (decide (n ≤ line))
      | none => isSelectedBy start
    if ¬ opens then return (false, .outside)
    let inside (last : Nat) : Bool × RangeState :=
      (true, if last ≤ line then closed else .inside (some last))
    match stop with
    | .line n =>
      let isLate := startLine?.any (· < line) && n < line
      return if isLate then (false, closed) else inside n
    | .further n => return inside (line + n)
    | .multiple n => return inside (if n = 0 then line else (line + n - 1) / n * n)
    | .last =>
      let isLast ← isAtEnd
      return (true, if isLast then closed else .inside none)
    | _ => return (true, .inside none)
  | .inside last =>
    match stop, last with
    | .line n, _ => return (line ≤ n, if n ≤ line then closed else state)
    | _, some n => return (true, if n ≤ line then closed else state)
    | _, none =>
      let closes ← isSelectedBy stop
      return (true, if closes then closed else state)

/-- Whether a command, which has the given number, is run for the line. -/
def isSelected (number : Nat) (c : Command) : Editing Bool := do
  let selected ← match c.selection with
    | .all => pure true
    | .one a => isSelectedBy a
    | .range start stop => do
      let (selected, state) ← rangeStep ((← get).ranges[number]?.getD .outside) start stop
      modify fun e => { e with ranges := e.ranges.setIfInBounds number state }
      pure selected
  return selected != c.isNegated

/-! ### Actions -/

/-- How a script goes on after a command. -/
inductive Flow where
  | next
  | jump (place : Nat)
  /-- The script ends, and the space may be written out. -/
  | finish (prints : Bool)
  /-- The script starts again without another line. -/
  | again
deriving DecidableEq, Inhabited

/-- Changes the space. -/
def edit (change : Space → Space) : Editing Unit :=
  modify fun e => { e with space := change e.space }

/-- Writes out the space unless lines are not to be written out. -/
def putUnlessQuiet : Editing Unit := do
  let e ← get
  if ¬ e.settings.isQuiet then putSpace e.space

/-- Ends with a status, after all has been written out. -/
def quit {α : Type} (status : Nat) : Editing α := do
  closeSource
  flush
  throw (if (← get).hasMissed then 2 else status)

/-- The first line of a space. -/
def firstLine (mark : Char) (space : Space) : Space :=
  match splitLine mark space.text.toList with
  | (line, _) => if line.isEnded then line else space

/-- The output of a command without the end of its last line. -/
def outputLine (mark : Char) (output : Raw) : Raw :=
  if output.toList.getLast? = some mark then String.ofList output.toList.dropLast else output

/-- Replaces what is found. -/
def substitute (runScript : Raw → Act Raw) (s : Substitution) : Editing Unit := do
  let searcher ← use s.searcher
  let e ← get
  match s.perform? searcher e.space.text with
  | none => return ()
  | some text =>
    edit fun space => { space with text }
    modify fun e => { e with replaced := true }
    if s.prints ∧ s.printsFirst then putSpace (← get).space
    if s.executes then
      let output ← liftAct (runScript text)
      edit fun space => { space with text := outputLine e.settings.mark output }
    if s.prints ∧ ¬ s.printsFirst then putSpace (← get).space
    match s.file with
    | some file => writeTo file (← get).space
    | none => return ()

/-- Goes on with the next line, which may be appended. At the end the script ends. -/
def goOn (appends : Bool) : Editing Flow := do
  let isLast ← isAtEnd
  if isLast then return .finish true
  else
    if ¬ appends then putUnlessQuiet
    if ← readLine appends then return .next else return .finish false

/-- Keeps the next line of a file to be appended. -/
def appendLine (file : Raw) : Editing Unit := do
  let e ← get
  let rest ← match e.readers.lookup file with
    | some rest => pure rest
    | none => do pure (← besides file).toList
  let (line, after) := splitLine e.settings.mark rest
  let text := if line.isEnded then line.text ++ String.singleton e.settings.mark else line.text
  modify fun e => { e with
    readers := (file, after) :: e.readers.filter (·.1 ≠ file)
    appendages := if rest.isEmpty then e.appendages else e.appendages ++ [.text text] }

/-- Does what a command does that has the given number. -/
def act (runScript : Raw → Act Raw) (number : Nat) (c : Command) : Editing Flow := do
  let e ← get
  let mark := String.singleton e.settings.mark
  let goOnAfter (action : Editing Unit) : Editing Flow := do
    action
    return .next
  let append (a : Appendage) : Editing Flow :=
    goOnAfter (modify fun e => { e with appendages := e.appendages ++ [a] })
  match c.action with
  | .block _ => return .next
  | .lineNumber => goOnAfter (put (Nat.repr e.line ++ mark))
  | .append text => append (.text text)
  | .insert text => goOnAfter (put text)
  | .insertFile file => goOnAfter do
      let text ← besides file
      put text
  | .change text =>
    let isInside : Bool := match e.ranges[number]? with
      | some (.inside _) => true
      | _ => false
    if ¬ isInside then put text
    return .finish false
  | .jump condition label =>
    let place := match label with
      | "" => e.script.commands.size
      | label => (e.script.labels.lookup label).getD e.script.commands.size
    let jumps : Bool := match condition with
      | .always => true
      | .ifReplaced => e.replaced
      | .unlessReplaced => !e.replaced
    if condition ≠ .always then modify fun e => { e with replaced := false }
    return if jumps then .jump place else .next
  | .delete => return .finish false
  | .deleteLine =>
    match splitLine e.settings.mark e.space.text.toList with
    | ({ isEnded := true, .. }, rest) =>
      edit fun space => { space with text := String.ofList rest }
      return .again
    | _ => return .finish false
  | .execute "" =>
    let output ← liftAct (runScript e.space.text)
    edit fun _ => { text := outputLine e.settings.mark output }
    return .next
  | .execute command =>
    let output ← liftAct (runScript command)
    goOnAfter (put output)
  | .fileName => goOnAfter (put (e.name ++ mark))
  | .get => goOnAfter (edit fun _ => e.hold)
  | .getAppended =>
    goOnAfter (edit fun space => { e.hold with text := space.text ++ mark ++ e.hold.text })
  | .hold => goOnAfter (set { e with hold := e.space })
  | .holdAppended =>
    goOnAfter (set { e with
      hold := { e.space with text := e.hold.text ++ mark ++ e.space.text } })
  | .list width =>
    goOnAfter (put (String.ofList
      (shownBytes (width.getD e.settings.width) 0 e.space.text.toList)))
  | .next => goOn false
  | .nextAppended => goOn true
  | .print => goOnAfter (putSpace e.space)
  | .printLine => goOnAfter (putSpace (firstLine e.settings.mark e.space))
  | .quit status prints =>
    if prints then
      putUnlessQuiet
      putAppendages
    quit status
  | .readFile file => append (.file file)
  | .readLine file => goOnAfter (appendLine file)
  | .substitute s => goOnAfter (substitute runScript s)
  | .writeFile file => goOnAfter (writeTo file e.space)
  | .writeLine file => goOnAfter (writeTo file (firstLine e.settings.mark e.space))
  | .exchange => goOnAfter (set { e with space := e.hold, hold := e.space })
  | .transliterate pairs =>
    goOnAfter (edit fun space => { space with text := transliterate pairs space.text })
  | .clear => goOnAfter (edit fun space => { space with text := "" })

/-! ### Lines -/

/-- Runs the script from a command on for the line that is in the space; a script that is run
for too long is ended. -/
def runFrom (runScript : Raw → Act Raw) : Nat → (number : Nat) → Editing Unit
  | 0, _ => liftAct (throw (.killed 9))
  | fuel + 1, number => do
    match (← get).script.commands[number]? with
    | none => putUnlessQuiet
    | some c =>
      let flow ←
        if ← isSelected number c then act runScript number c
        else match c.action with
          | .block stop => pure (.jump stop)
          | _ => pure .next
      match flow with
      | .next => runFrom runScript fuel (number + 1)
      | .jump place => runFrom runScript fuel place
      | .finish prints => if prints then putUnlessQuiet
      | .again => runFrom runScript fuel 0

/-- How many commands are run for one line at most. -/
def greatestEffort : Nat := 20000

/-- Runs the script for the lines that are left; so many lines are fuel enough. -/
def runLines (runScript : Raw → Act Raw) : Nat → Editing Unit
  | 0 => quit 0
  | fuel + 1 => do
    if ← readLine false then
      runFrom runScript greatestEffort 0
      runLines runScript fuel
    else quit 0

end LintHost.Shell.StreamEditor
