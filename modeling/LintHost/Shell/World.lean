import LintHost.FileSystem
import LintHost.Shell.Raw

/-!
# What processes share

The files, the channels that processes write to and read from, and the files that are open. An
open file is shared by all streams that lead to it, in every process, and so is the place up to
which it has been read or written.

A process runs to its end before the next one is started, so a channel holds everything that
was written to it when it is read.
-/

namespace LintHost.Shell

/-- What an open file stands on. -/
inductive Medium where
  | file (place : Location)
  | directory
  | channel (number : Nat)
  /-- An empty file that swallows what is written to it. -/
  | nothing
deriving DecidableEq, Inhabited

/-- An open file. -/
structure OpenFile where
  medium : Medium
  /-- Up to where it has been read or written. -/
  offset : Nat := 0
  appends : Bool := false
  canRead : Bool := false
  canWrite : Bool := false
deriving DecidableEq, Inhabited

/-- What processes share. -/
structure World where
  files : FileSystem := {}
  channels : Array Raw := #["", ""]
  opened : Array OpenFile := #[]
  /-- The number that the next process goes by. -/
  nextProcess : Nat := 4242
  /-- The signals that processes have been sent which wait for others: process and signal. -/
  sent : List (Nat × Nat) := []
deriving Inhabited

namespace World

/-- The number of the channel of what the whole process writes. -/
def outputChannel : Nat := 0

/-- The number of the channel of its messages. -/
def errorChannel : Nat := 1

/-- The world before a process runs: nothing to read, and its two channels. -/
def start (files : FileSystem) : World where
  files := files
  opened := #[{ medium := .nothing, canRead := true },
    { medium := .channel outputChannel, canWrite := true },
    { medium := .channel errorChannel, canWrite := true }]

/-- Opens a file; gives its number. -/
def add (w : World) (file : OpenFile) : Nat × World :=
  (w.opened.size, { w with opened := w.opened.push file })

/-- A new channel; gives its number. -/
def addChannel (w : World) : Nat × World :=
  (w.channels.size, { w with channels := w.channels.push "" })

/-- What a channel holds. -/
def channel (w : World) (number : Nat) : Raw :=
  (w.channels[number]?).getD ""

/-- The bytes of a file. -/
def fileText (w : World) (place : Location) : Raw :=
  match w.files.entryAt? place with
  | some (.file content) => Raw.ofBytes content.bytes
  | _ => ""

/-- The world with other bytes in a file. -/
def setFileText (w : World) (place : Location) (text : Raw) : World :=
  { w with files := w.files.put place (.file (.ofBytes (Raw.toBytes text))) }

/-! ### Reading and writing -/

/-- The bytes of a medium; a directory cannot be read. -/
def mediumText (w : World) : Medium → Except SystemError Raw
  | .file place => .ok (w.fileText place)
  | .directory => .error .isADirectory
  | .channel number => .ok (w.channel number)
  | .nothing => .ok ""

/-- What has not been read yet of an open file. -/
def unread (w : World) (number : Nat) : Except SystemError Raw := do
  match w.opened[number]? with
  | some file =>
    let text ← w.mediumText file.medium
    return String.ofList (text.toList.drop file.offset)
  | none => .ok ""

/-- The world with so many more bytes read of an open file. -/
def advance (w : World) (number count : Nat) : World :=
  { w with opened := w.opened.modify number fun f => { f with offset := f.offset + count } }

/-- Writes to an open file, at its end or at the place up to which it has been written. -/
def write (w : World) (number : Nat) (text : Raw) : World :=
  match w.opened[number]? with
  | none => w
  | some file =>
    match file.medium with
    | .channel channel => { w with channels := w.channels.modify channel (· ++ text) }
    | .file place =>
      let old := (w.fileText place).toList
      let start := if file.appends then old.length else file.offset
      let padding := List.replicate (start - old.length) '\x00'
      let new := old.take start ++ padding ++ text.toList ++ old.drop (start + text.length)
      { w.setFileText place (String.ofList new) with
        opened := w.opened.modify number fun f => { f with offset := start + text.length } }
    | .directory | .nothing => w

/-! ### Directories -/

/-- The names in a directory, in order, among them those of the directory itself and of the
one above. -/
def names (w : World) (place : Location) : List String :=
  let inside := w.files.entries.filterMap fun (other, _) =>
    if other.length = place.length + 1 ∧ place.isPrefixOf other then other.getLast? else none
  ("." :: ".." :: inside.eraseDups).mergeSort fun a b => a ≤ b

/-- What stands where a path leads to from a directory. -/
def look (w : World) (directory : Location) (path : Path) : Except SystemError Entry :=
  { w.files with current := directory }.look path

/-! ### Opening files -/

/-- The devices that are always there; the others are what a stream leads to. -/
inductive Device where
  | null
  | stream (number : Nat)
deriving DecidableEq, Inhabited

/-- The device that a path names. -/
def device? (path : Path) : Option Device :=
  let named (name : String) (device : Device) : Option Device :=
    if path.same ⟨name⟩ then some device else none
  (named "/dev/null" .null).or <| (named "/dev/stdin" (.stream 0)).or <|
    (named "/dev/stdout" (.stream 1)).or <| (named "/dev/stderr" (.stream 2)).or <|
    ((List.range 10).findSome? fun n => named ("/dev/fd/" ++ Nat.repr n) (.stream n))

/-- How a file is opened. -/
structure Opening where
  reads : Bool := false
  writes : Bool := false
  truncates : Bool := false
  appends : Bool := false
  /-- The file must not be there. -/
  mustBeNew : Bool := false

/-- Opens the file of a path from a directory, and makes it where it is not there and is to be
written; gives the number of the open file. -/
def openPath (w : World) (directory : Location) (path : Path) (how : Opening) :
    Except SystemError (Nat × World) := do
  let file (medium : Medium) : OpenFile :=
    { medium, appends := how.appends, canRead := how.reads, canWrite := how.writes }
  if device? path = some .null then return w.add (file .nothing)
  let files := { w.files with current := directory }
  let place ← files.locate path
  match files.entryAt? place with
  | some .directory =>
    if how.writes then throw .isADirectory else return w.add (file .directory)
  | some (.file _) =>
    if how.mustBeNew then throw .alreadyExists
    let w := if how.truncates then w.setFileText place "" else w
    return w.add (file (.file place))
  | none =>
    if how.writes then return (w.setFileText place "").add (file (.file place))
    else throw .notFound

end World

end LintHost.Shell
