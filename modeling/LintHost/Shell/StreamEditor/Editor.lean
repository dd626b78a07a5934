import LintHost.Shell.Machine
import LintHost.Shell.StreamEditor.Script

/-!
# The stream editor at work

The editor goes through its files line by line. A line is edited in a *space*, and another
space holds what is kept. What is to be appended to a line is written out when the next line is
read, or when the editor ends.

The end of the last line of a file may be missing; it is missing in the output, too, unless
something follows. What is written out is collected and leaves the editor at its end, after all
messages, or in a file that is edited in its place. An action of the editor may stop with the
status that the editor ends with.
-/

namespace LintHost.Shell.StreamEditor

/-! ### The state -/

/-- How the editor works. -/
structure Settings where
  isQuiet : Bool := false
  /-- Whether every file has lines of its own. -/
  separates : Bool := false
  /-- Whether files are edited in their places, and under what name they are kept: every
  star stands for the old one. -/
  inPlace : Option Raw := none
  /-- How wide lines are in which characters are shown. -/
  width : Nat := 70
  /-- What ends a line. -/
  mark : Char := '\n'
  /-- Whether no more is read than is needed, and everything is written out at once. -/
  isDirect : Bool := false
deriving Inhabited

/-- A text without its end, which may be missing. -/
structure Space where
  text : Raw := ""
  isEnded : Bool := true
deriving Inhabited

/-- What is appended to a line. -/
inductive Appendage where
  | text (text : Raw)
  | file (name : Raw)
deriving Inhabited

/-- Whether lines are in a range: it may have a last line, and one that starts at a number does
not start again. -/
inductive RangeState where
  | outside
  | inside (stop : Option Nat)
  | over
deriving Inhabited

/-- A file that is read. -/
structure Source where
  name : Raw
  /-- The place of the file, if it is edited in its place. -/
  place : Option Location := none
  /-- The open file that is the input of the editor, if this is what is read. -/
  input : Option Nat := none
  rest : List Char
  /-- How much of what there is to read is left in the input until it has been read. -/
  kept : Nat := 0
deriving Inhabited

/-- Where lines are written to. -/
inductive Destination where
  | stream (number : Nat)
  | opened (number : Nat)
deriving DecidableEq, Inhabited

/-- A file that lines are written to. -/
structure Target where
  name : Raw
  destination : Destination
  lacksEnd : Bool := false
deriving Inhabited

/-- The editor. -/
structure Editor where
  script : Script
  settings : Settings
  /-- The files that have not been opened. -/
  files : List Raw
  source : Option Source := none
  /-- The name of the file that was opened last. -/
  name : Raw := "-"
  /-- Whether the next file starts anew. -/
  startsAnew : Bool := false
  line : Nat := 0
  space : Space := {}
  hold : Space := {}
  /-- Whether something was replaced since a line was read. -/
  replaced : Bool := false
  appendages : List Appendage := []
  ranges : Array RangeState := #[]
  /-- The expression that was used last. -/
  searcher : Option Searcher := none
  /-- What has been written out, in reverse. -/
  written : List Raw := []
  lacksEnd : Bool := false
  targets : List Target := []
  /-- The files that are read line by line, and what is left of them. -/
  readers : List (Raw × List Char) := []
  /-- Whether a file could not be read. -/
  hasMissed : Bool := false
deriving Inhabited

/-- An action of the editor. -/
abbrev Editing := ExceptT Nat (StateT Editor Act)

/-- Runs an action of the shell. -/
def liftAct {α : Type} (action : Act α) : Editing α :=
  ExceptT.lift (StateT.lift action)

/-- Ends with a message. -/
def panic {α : Type} (message : Raw) : Editing α := do
  liftAct (emit 2 ("sed: " ++ message ++ "\n"))
  throw 4

/-! ### Writing -/

/-- Lets what has been written out leave the editor. -/
def flush : Editing Unit := do
  let e ← get
  set { e with written := [] }
  liftAct (emit 1 (String.join e.written.reverse))

/-- Writes out a text, after the end of a line that is missing. -/
def put (text : Raw) : Editing Unit := do
  let e ← get
  let text := if e.lacksEnd then String.singleton e.settings.mark ++ text else text
  set { e with written := text :: e.written, lacksEnd := false }
  if e.settings.isDirect ∧ e.settings.inPlace.isNone then flush

/-- Writes out a space. -/
def putSpace (space : Space) : Editing Unit := do
  let mark := String.singleton (← get).settings.mark
  put (if space.isEnded then space.text ++ mark else space.text)
  modify fun e => { e with lacksEnd := !space.isEnded }

/-- Writes a space to a file. -/
def writeTo (name : Raw) (space : Space) : Editing Unit := do
  let e ← get
  match e.targets.find? fun t => t.name == name with
  | none => return ()
  | some target =>
    let mark := String.singleton e.settings.mark
    let text := (if target.lacksEnd then mark else "") ++ space.text ++
      if space.isEnded then mark else ""
    let targets := e.targets.map fun (t : Target) =>
      if t.name == name then { t with lacksEnd := !space.isEnded } else t
    set { e with targets }
    match target.destination with
    | .stream 1 =>
      modify fun e => { e with written := text :: e.written }
      if e.settings.isDirect ∨ e.settings.inPlace.isSome then flush
    | .stream stream => liftAct (emit stream text)
    | .opened number =>
      liftAct (modify fun m => { m with world := m.world.write number text })

/-! ### Files -/

/-- The bytes of a file that is read beside the lines, if it can be read at all. -/
def besides (name : Raw) : Editing Raw := do
  let found ← liftAct (if name = "/dev/stdin" then readInput else readFile name)
  match found with
  | .ok text => return text
  | .error reason =>
    if reason = SystemError.isADirectory.reason then
      panic ("read error on " ++ name ++ ": " ++ reason)
    else return ""

/-- Writes out what is to be appended. -/
def putAppendages : Editing Unit := do
  let e ← get
  set { e with appendages := [] }
  e.appendages.forM fun appendage => do
    let text ← match appendage with
      | .text text => pure text
      | .file name => besides name
    put text

/-- Gives a file that was edited in its place its new text; the old one may be kept under
another name. -/
def replaceFile (name : Raw) (place : Location) (pattern : Raw) : Editing Unit := do
  let text := String.join (← get).written.reverse
  modify fun e => { e with written := [], lacksEnd := false }
  if pattern ≠ "*" then
    let kept := name.intercalate (pattern.splitOn "*")
    let m ← liftAct get
    match m.world.openPath m.directory ⟨Raw.toText kept⟩
        { writes := true, truncates := true } with
    | .ok (number, world) =>
      liftAct (set { m with world := world.write number (m.world.fileText place) })
    | .error e => panic ("cannot rename " ++ name ++ ": " ++ e.reason)
  liftAct <| modify fun m => { m with world := m.world.setFileText place text }

/-- Closes the file that is read. An input is left where the reading has come to. -/
def closeSource : Editing Unit := do
  let e ← get
  match e.source with
  | none => return ()
  | some source =>
    set { e with source := none, startsAnew := e.settings.separates }
    match source.input, source.place, e.settings.inPlace with
    | some number, _, _ =>
      liftAct <| modify fun m =>
        { m with world := m.world.advance number (source.kept - source.rest.length) }
    | none, some place, some pattern => replaceFile source.name place pattern
    | _, _, _ => return ()

/-- The source that a name stands for; none if it cannot be read. -/
def open? (name : Raw) : Editing (Option Source) := do
  let m ← liftAct get
  let inPlace := (← get).settings.inPlace.isSome
  let miss (e : SystemError) : Editing (Option Source) := do
    liftAct (emit 2 ("sed: can't read " ++ name ++ ": " ++ e.reason ++ "\n"))
    modify fun e => { e with hasMissed := true }
    return none
  let isDirect := (← get).settings.isDirect
  let ofInput (stream : Nat) : Editing (Option Source) := do
    match m.source? stream with
    | none => panic ("read error on stdin: " ++ badStream)
    | some number =>
      match m.world.unread number with
      | .ok text =>
        let isSeekable : Bool := match (m.world.opened[number]?).map OpenFile.medium with
          | some (.file _) => true
          | _ => false
        let kept := if isSeekable || isDirect then text.length else 0
        liftAct (set { m with world := m.world.advance number (text.length - kept) })
        return some { name, input := some number, rest := text.toList, kept }
      | .error e => panic ("read error on stdin: " ++ e.reason)
  if name = "-" ∧ ¬ inPlace then ofInput 0
  else match World.device? ⟨Raw.toText name⟩ with
    | some (.stream stream) =>
      if (m.streams.lookup stream).isSome then ofInput stream else miss .notFound
    | some .null =>
      if inPlace then panic ("couldn't edit " ++ name ++ ": not a regular file")
      else return some { name, rest := [] }
    | none =>
      let files := { m.world.files with current := m.directory }
      match files.locate ⟨Raw.toText name⟩, files.look ⟨Raw.toText name⟩ with
      | .ok place, .ok (.file _) =>
        return some { name, place, rest := (m.world.fileText place).toList }
      | _, .ok _ =>
        if inPlace then panic ("couldn't edit " ++ name ++ ": not a regular file")
        else panic ("read error on " ++ name ++ ": " ++ SystemError.isADirectory.reason)
      | _, .error e => miss e

/-- Opens the next file that can be read; tells whether there is one. -/
def openNext : List Raw → Editing Bool
  | [] => return false
  | name :: files => do
    modify fun e => { e with files }
    match ← open? name with
    | some source =>
      modify fun e => { e with source := some source, name }
      return true
    | none => openNext files

/-- Whether none of some files has anything to read; the files before the first that has are
passed. -/
def nothingIn : List Raw → Editing Bool
  | [] => return true
  | name :: files => do
    modify fun e => { e with files }
    match ← open? name with
    | none => nothingIn files
    | some source =>
      modify fun e => { e with source := some source, name }
      if source.rest.isEmpty then
        closeSource
        nothingIn files
      else return false

/-- Whether the line is the last one. -/
def isAtEnd : Editing Bool := do
  let e ← get
  match e.source with
  | some source =>
    if ¬ source.rest.isEmpty then return false
    else if e.settings.separates then return true
    else
      closeSource
      nothingIn e.files
  | none => if e.settings.separates then return true else nothingIn e.files

/-! ### Lines -/

/-- The state of a range before the first line. -/
def RangeState.start : Selection → RangeState
  | .range (.line 0) _ => .inside none
  | _ => .outside

/-- Starts a file anew: lines are counted from one, and nothing is kept. -/
def startAnew : Editing Unit := do
  if (← get).startsAnew then
    modify fun e => { e with
      startsAnew := false, line := 0, hold := { e.hold with text := "" }
      ranges := e.script.commands.map fun c => .start c.selection
      readers := [] }
    if (← get).lacksEnd then put ""

/-- The characters up to a mark and what follows it, and whether the mark is there. -/
def splitLine (mark : Char) (cs : List Char) : Space × List Char :=
  let line := cs.takeWhile (· ≠ mark)
  ({ text := String.ofList line, isEnded := line.length < cs.length }, cs.drop (line.length + 1))

/-- Takes the next line of the files that are open or still to be opened; so many files are fuel
enough. -/
def takeLine : Nat → Editing (Option Space)
  | 0 => return none
  | fuel + 1 => do
    let e ← get
    match e.source with
    | none =>
      if e.files.isEmpty then return none
      startAnew
      if ← openNext e.files then takeLine fuel else return none
    | some source =>
      if source.rest.isEmpty then
        closeSource
        takeLine fuel
      else
        let (line, rest) := splitLine e.settings.mark source.rest
        modify fun e =>
          { e with source := some { source with rest }, line := e.line + 1 }
        return some line

/-- Reads the next line into the space, or appends it there; tells whether there is one. -/
def readLine (appends : Bool) : Editing Bool := do
  putAppendages
  modify fun e => { e with replaced := false }
  match ← takeLine (2 * (← get).files.length + 2) with
  | none => return false
  | some line =>
    modify fun e =>
      let before := if appends then e.space.text ++ String.singleton e.settings.mark else ""
      { e with space := { line with text := before ++ line.text } }
    return true

end LintHost.Shell.StreamEditor
