import LintHost.Path
import LintHost.Text.Utf8

/-!
# The file system

The files that a lint can see, as a value: a list of entries by location, where a location
is the list of names from the root, and a current directory that relative paths start from.

Unlike the components of `LintHost.Path`, which are read off the spelling, looking a path
up follows the directories that exist: every segment, silent ones included, is looked up
in something that has to be a directory, `..` is the directory above, and names have a
greatest length. `FileSystem.locate` does this once for every operation.

A temporary copy lives in a directory of its own under `/tmp`. `FileSystem.createTemporary`
and `FileSystem.removeTree` are the only operations that a lint uses to change anything.
-/

namespace LintHost

/-! ### Contents and errors -/

/-- What a file holds: text, or bytes that are not UTF-8. -/
inductive Content where
  | text (value : String)
  | binary (bytes : List UInt8)
deriving DecidableEq, Inhabited

namespace Content

/-- The content with the given bytes, which is text whenever they are UTF-8. -/
def ofBytes (bytes : List UInt8) : Content :=
  match Text.decode8? bytes with
  | some cs => .text (String.ofList cs)
  | none => .binary bytes

/-- The bytes of the content. -/
def bytes : Content → List UInt8
  | .text value => Text.encode8 value.toList
  | .binary bytes => bytes

end Content

/-- Why an operation on a file or a process failed. -/
inductive SystemError where
  | notFound
  | permissionDenied
  | alreadyExists
  | notADirectory
  | isADirectory
  | nameTooLong
  | nulInName
  | nulInCommand
  | invalidUtf8
  | other
deriving DecidableEq, Inhabited

namespace SystemError

/-- The system's own words for the failure. -/
def reason : SystemError → String
  | .notFound => "No such file or directory"
  | .permissionDenied => "Permission denied"
  | .alreadyExists => "File exists"
  | .notADirectory => "Not a directory"
  | .isADirectory => "Is a directory"
  | .nameTooLong => "File name too long"
  | .nulInName => "file name contained an unexpected NUL byte"
  | .nulInCommand => "nul byte found in provided data"
  | .invalidUtf8 => "stream did not contain valid UTF-8"
  | .other => "other error"

/-- The number by which the system knows the failure; some are found before it is asked. -/
def number? : SystemError → Option Nat
  | .notFound => some 2
  | .permissionDenied => some 13
  | .alreadyExists => some 17
  | .notADirectory => some 20
  | .isADirectory => some 21
  | .nameTooLong => some 36
  | .nulInName | .nulInCommand | .invalidUtf8 | .other => none

/-- The words and the number of the failure. -/
def message (e : SystemError) : String :=
  match e.number? with
  | some n => e.reason ++ " (os error " ++ Nat.repr n ++ ")"
  | none => e.reason

end SystemError

/-! ### Entries and look-up -/

/-- The names from the root to a file or directory. -/
abbrev Location := List String

/-- What stands at a location. -/
inductive Entry where
  | directory
  | file (content : Content)
deriving DecidableEq, Inhabited

/-- A file system with its current directory. The root is a directory without an entry of
its own; of two entries for one location the first counts. -/
structure FileSystem where
  entries : List (Location × Entry) := []
  current : Location := []
deriving Inhabited

namespace FileSystem

/-- The entry at a location. -/
def entryAt? (fs : FileSystem) (place : Location) : Option Entry :=
  if place = [] then some .directory else fs.entries.lookup place

/-- The greatest number of bytes in a name. -/
def nameLimit : Nat := 255

/-- The number of bytes that no whole path may reach. -/
def pathLimit : Nat := 4096

/-- Follows the segments of a path from a location, looking each of them up in what has to
be a directory. The last location need not exist. -/
def follow (fs : FileSystem) : Location → List (List Char) → Except SystemError Location
  | here, [] => .ok here
  | here, segment :: rest =>
    match fs.entryAt? here with
    | none => .error .notFound
    | some (.file _) => .error .notADirectory
    | some .directory =>
      if Path.isSilent segment then fs.follow here rest
      else if segment = ['.', '.'] then fs.follow here.dropLast rest
      else if nameLimit < (String.ofList segment).utf8ByteSize then .error .nameTooLong
      else fs.follow (here ++ [String.ofList segment]) rest

/-- The location that a path leads to. -/
def locate (fs : FileSystem) (path : Path) : Except SystemError Location :=
  if path.chars = [] then .error .notFound
  else if '\x00' ∈ path.chars then .error .nulInName
  else if pathLimit ≤ path.text.utf8ByteSize then .error .nameTooLong
  else fs.follow (if path.isAbsolute then [] else fs.current) (Text.splitOn '/' path.chars)

/-- What stands where a path leads to. -/
def look (fs : FileSystem) (path : Path) : Except SystemError Entry := do
  match fs.entryAt? (← fs.locate path) with
  | some entry => .ok entry
  | none => .error .notFound

/-- Whether a path leads to a regular file. -/
def isFile (fs : FileSystem) (path : Path) : Bool :=
  match fs.look path with
  | .ok (.file _) => true
  | _ => false

/-- Whether a path leads to a directory. -/
def isDirectory (fs : FileSystem) (path : Path) : Bool :=
  match fs.look path with
  | .ok .directory => true
  | _ => false

/-- The content of the file that a path leads to. -/
def read (fs : FileSystem) (path : Path) : Except SystemError Content := do
  match ← fs.look path with
  | .file content => .ok content
  | .directory => .error .isADirectory

/-- The text of the file that a path leads to; a file that is not UTF-8 has none. -/
def readText (fs : FileSystem) (path : Path) : Except SystemError String := do
  match ← fs.read path with
  | .text value => .ok value
  | .binary _ => .error .invalidUtf8

/-! ### Changing entries -/

/-- The file system with a new entry at a location. -/
def put (fs : FileSystem) (place : Location) (entry : Entry) : FileSystem :=
  { fs with entries := (place, entry) :: fs.entries.filter (·.1 ≠ place) }

/-- The file system without a location and all that lies below it. -/
def removeTree (fs : FileSystem) (place : Location) : FileSystem :=
  { fs with entries := fs.entries.filter fun e => !place.isPrefixOf e.1 }

/-- The file system with directories at a location and at every location above it, where
nothing stands there yet. -/
def makeDirectories (fs : FileSystem) (place : Location) : FileSystem :=
  ((List.range place.length).map fun n => place.take (n + 1)).foldl
    (fun fs above => if (fs.entryAt? above).isSome then fs else fs.put above .directory) fs

/-- The location that a path names when none of its directories need exist, from the
current directory. -/
def intended (fs : FileSystem) (path : Path) : Location :=
  let start := if path.isAbsolute then [] else fs.current
  (Text.splitOn '/' path.chars).foldl
    (fun here segment =>
      if Path.isSilent segment then here
      else if segment = ['.', '.'] then here.dropLast
      else here ++ [String.ofList segment])
    start

/-- Writes a file, making the directories above it. -/
def writeFile (fs : FileSystem) (path : Path) (content : Content) : FileSystem :=
  let place := fs.intended path
  (fs.makeDirectories place.dropLast).put place (.file content)

/-- Makes a directory and those above it. -/
def makeDirectory (fs : FileSystem) (path : Path) : FileSystem :=
  fs.makeDirectories (fs.intended path)

/-- Removes a file, or a directory with all that lies below it. -/
def remove (fs : FileSystem) (path : Path) : FileSystem :=
  fs.removeTree (fs.intended path)

/-! ### Temporary files -/

/-- The directory that holds temporary files. -/
def temporaryRoot : Path := ⟨"/tmp"⟩

/-- The part that the names of all temporary directories share. -/
def temporaryStem : String := "mypy-lint-"

/-- The `n`th name for a temporary directory: the shared part and six digits. -/
def temporaryName (n : Nat) : String :=
  let digits := Nat.toDigits 10 n
  temporaryStem ++ String.ofList (List.replicate (6 - digits.length) '0' ++ digits)

/-- The number of names for temporary directories: those with six digits. -/
def temporaryNames : Nat := 1000000

/-- The first name for a temporary directory that nothing stands at or below, unless the names
have run out; among one name more than there are entries, one is free. -/
def freeTemporary? (fs : FileSystem) : Option String :=
  ((List.range (min (fs.entries.length + 1) temporaryNames)).map temporaryName).find? fun name =>
    fs.entries.all fun e => ¬ ["tmp", name].isPrefixOf e.1

/-- A file in a temporary directory of its own. -/
structure TemporaryFile where
  /-- Where the directory is. -/
  directory : Location
  /-- The path of the file. -/
  path : Path
deriving DecidableEq, Inhabited

/-- Makes a temporary directory, under the first name that is free. -/
def makeTemporary (fs : FileSystem) : Except SystemError (FileSystem × String) := do
  match fs.entryAt? ["tmp"] with
  | none => throw .notFound
  | some (.file _) => throw .notADirectory
  | some .directory => pure ()
  match fs.freeTemporary? with
  | none => throw .alreadyExists
  | some free =>
    return ({ fs with entries := (["tmp", free], .directory) :: fs.entries }, free)

/-- Writes a new file of the given name into a directory that is there. -/
def writeBelow (fs : FileSystem) (directory : Location) (name text : String) :
    Except SystemError FileSystem := do
  if '\x00' ∈ name.toList then throw .nulInName
  if nameLimit < name.utf8ByteSize then throw .nameTooLong
  return { fs with entries := (directory ++ [name], .file (.text text)) :: fs.entries }

/-- Tries to create a temporary directory with one file of the given name and text, and gives what
came of it with the file system afterwards. If the file cannot be written the directory is removed
again. -/
def tryTemporary (fs : FileSystem) (name text : String) :
    Except SystemError TemporaryFile × FileSystem :=
  match fs.makeTemporary with
  | .error cause => (.error cause, fs)
  | .ok (made, free) =>
    let directory : Location := ["tmp", free]
    match made.writeBelow directory name text with
    | .error cause => (.error cause, made.removeTree directory)
    | .ok written =>
      (.ok { directory, path := (temporaryRoot.join ⟨free⟩).join ⟨name⟩ }, written)

/-- Creates a temporary directory with one file of the given name and text. -/
def createTemporary (fs : FileSystem) (name text : String) :
    Except SystemError (FileSystem × TemporaryFile) :=
  match fs.tryTemporary name text with
  | (.ok file, files) => .ok (files, file)
  | (.error cause, _) => .error cause

end FileSystem

end LintHost
