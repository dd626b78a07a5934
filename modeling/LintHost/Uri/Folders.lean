import LintHost.Text.Split
import LintHost.Uri.Percent

/-!
# The path of a URI

The path of a URI is resolved segment by segment. What has been read is a list of folders, each
of which is followed by a slash; `.` adds nothing to it, and `..` takes the last folder away.
The first folder stands before the first slash, so it is empty and is never taken away, and
neither is a folder that is named like a drive, a letter with a colon or a bar.

In a `file` URI a first segment of that kind is a drive: its bar becomes a colon, and a host
before it counts for nothing.
-/

namespace LintHost.Uri

/-! ### Segments -/

/-- The segment with its encoded dots decoded. -/
def undot : List Char → List Char
  | '%' :: '2' :: 'e' :: rest => '.' :: undot rest
  | '%' :: '2' :: 'E' :: rest => '.' :: undot rest
  | c :: rest => c :: undot rest
  | [] => []

/-- A letter with a colon or a bar. -/
def isDriveLetter : List Char → Bool
  | [letter, mark] => letter.isAlpha && (mark == ':' || mark == '|')
  | _ => false

/-- Whether a folder is named like a drive, perhaps with a backslash behind. -/
def isDriveFolder (folder : List Char) : Bool :=
  isDriveLetter folder || (isDriveLetter (folder.take 2) && folder[2]? == some '\\')

/-! ### Folders -/

/-- The part of a path that has been read. -/
structure Folders where
  /-- The folders, the last one first. -/
  names : List (List Char)
  /-- What stands after the last slash. -/
  last : List Char
  /-- Whether the path starts with a drive. -/
  hasDrive : Bool

/-- A path of which nothing has been read. -/
def Folders.start : Folders := ⟨[], [], false⟩

/-- A path of which the first slash has been read. -/
def Folders.root : Folders := ⟨[[]], [], false⟩

/-- Takes the last folder away, where that may be done. -/
def Folders.up (f : Folders) : Folders :=
  match f.names with
  | name :: rest@(_ :: _) => if isDriveFolder name then f else { f with names := rest }
  | _ => f

/-- Puts a segment at the end; `isFolder` tells whether a slash follows it. -/
def Folders.append (f : Folders) (segment : List Char) (isFolder : Bool) : Folders :=
  if isFolder then { f with names := segment :: f.names } else { f with last := segment }

/-- Reads a segment; `isFolder` tells whether a slash follows it. -/
def Folders.push (isFile : Bool) (f : Folders) (segment : List Char) (isFolder : Bool) : Folders :=
  if undot segment = ['.', '.'] then f.up
  else if undot segment = ['.'] then f
  else if isFile ∧ f.names = [[]] ∧ isDriveLetter segment then
    { f.append (segment.take 1 ++ [':']) isFolder with hasDrive := true }
  else f.append (encode pathSet segment) isFolder

/-- Reads all segments. -/
def Folders.pushAll (isFile : Bool) (f : Folders) : List (List Char) → Folders
  | [] => f
  | [segment] => f.push isFile segment false
  | segment :: rest => (f.push isFile segment true).pushAll isFile rest

/-- Reads a text that may hold slashes. -/
def Folders.read (isFile : Bool) (f : Folders) (cs : List Char) : Folders :=
  f.pushAll isFile (Text.splitOn '/' cs)

/-- The path as a text. Of the slashes at the start of a file's path one is kept. -/
def Folders.text (isFile : Bool) (f : Folders) : List Char :=
  let path := f.names.reverse.flatMap (· ++ ['/']) ++ f.last
  if isFile then '/' :: path.dropWhile (· == '/') else path

end LintHost.Uri
