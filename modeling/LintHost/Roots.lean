import LintHost.Path

/-!
# Project roots

The folders that are open in an editor. The root of a file is the innermost folder that
encloses it; a folder does not enclose itself. `Roots.update` adds and removes folders, and
where one is both added and removed it is added.
-/

namespace LintHost

/-- The folders that are open, in the order in which they were opened. -/
structure Roots where
  folders : List Path := []
deriving DecidableEq, Inhabited

namespace Roots

/-- A folder encloses a file whose path begins with it and goes on. -/
def encloses (folder file : Path) : Bool :=
  !file.same folder && file.startsWith folder

/-- Of two folders the one with more components; the later one of two with equally many. -/
def inner (best? : Option Path) (folder : Path) : Option Path :=
  match best? with
  | none => some folder
  | some best =>
    if best.components.length ≤ folder.components.length then some folder else some best

/-- The innermost folder that encloses the file. -/
def rootFor (roots : Roots) (file : Path) : Option Path :=
  (roots.folders.filter (encloses · file)).foldl inner none

/-- Whether a folder is among some, in whatever spelling. -/
def among (folder : Path) (folders : List Path) : Bool :=
  folders.any folder.same

/-- The roots with other folders altogether. -/
def replace (_ : Roots) (folders : List Path) : Roots :=
  ⟨folders⟩

/-- The roots with folders added and removed. -/
def update (roots : Roots) (added removed : List Path) : Roots :=
  ⟨(roots.folders.filter fun f => !among f removed && !among f added) ++ added⟩

end Roots

end LintHost
