import LintHost.FileSystem

/-!
# Finding the configuration file

The configuration file of a directory is the nearest one above it: the directories are tried
from the innermost outwards, and in each of them the names in order. A directory with one of
the names is passed over.

Walking the directories is remembered: `Finder.find` looks a start directory up before it
searches, and `Finder.invalidate` forgets everything. The memory does not notice changes of
the file system; whoever learns of one has to invalidate. A lookup is three steps, of which
the first and the last touch the memory and the second the file system, and they are
functions of their own: `Finder.known?`, `Finder.search` and `Finder.remember`.
-/

namespace LintHost

/-- The names of configuration files, in the order in which they are tried. -/
def configFileNames : List String := ["mypy.ini", "setup.cfg"]

/-- A finder: the names to look for, and what it remembers about start directories. -/
structure Finder where
  names : List String := configFileNames
  memory : List (Path × Option Path) := []
deriving DecidableEq, Inhabited

namespace Finder

/-- What is remembered about a directory, however it was spelled. -/
def known? (finder : Finder) (directory : Path) : Option (Option Path) :=
  (finder.memory.find? fun known => known.1.same directory).map (·.2)

/-- The places where a configuration file of a directory may be, the nearest first. -/
def candidates (names : List String) (directory : Path) : List Path :=
  directory.ancestors.flatMap fun above => names.map fun name => above.join ⟨name⟩

/-- The nearest configuration file in the file system as it is. -/
def search (finder : Finder) (fs : FileSystem) (directory : Path) : Option Path :=
  (candidates finder.names directory).find? fs.isFile

/-- The finder that remembers what was found for a directory. -/
def remember (finder : Finder) (directory : Path) (found : Option Path) : Finder :=
  { finder with
    memory := (directory, found) :: finder.memory.filter fun known => !known.1.same directory }

/-- The nearest configuration file, from memory if the directory was searched before. -/
def find (finder : Finder) (fs : FileSystem) (directory : Path) : Option Path × Finder :=
  match finder.known? directory with
  | some found => (found, finder)
  | none =>
    let found := finder.search fs directory
    (found, finder.remember directory found)

/-- The finder that remembers nothing. -/
def invalidate (finder : Finder) : Finder :=
  { finder with memory := [] }

/-- Whether a path has the name of a configuration file. -/
def isConfigFile (finder : Finder) (path : Path) : Bool :=
  match path.fileName? with
  | some name => finder.names.contains name
  | none => false

end Finder

end LintHost
