import LintHost.Text.Split

/-!
# Paths

A path is a text, and its spelling is kept: what the user wrote is what a report or a
checker is shown. Two paths that differ only in spelling are told apart as values and
identified by `Path.same`, which compares *components*: repeated slashes, a slash at the
end and inner `.` say nothing, while a leading `.` and every `..` do.

The file is in three parts:

* the anatomy of a path: its anchor (`/`, a leading `.` or nothing), the segments after
  it, and the components that they stand for;
* what is read off a path: `fileName?`, `parent?`, `ancestors`, `startsWith`;
* what builds one: `join`, `ofComponents`, `resolveDots` and `relativeTo?`.

The parent of a path keeps the spelling of the part that remains. `Path.above` lists all
parents at once by recursion on the segments, so that `parent?` is its head and
`ancestors` needs no measure.
-/

namespace LintHost

/-- A file path as it is spelled. -/
structure Path where
  text : String
deriving DecidableEq, Inhabited

/-- What one part of a path stands for. -/
inductive Component where
  /-- The root of the file system. -/
  | root
  /-- A leading `.`, the current directory. -/
  | current
  /-- A `..`, the directory above. -/
  | parent
  /-- A named file or directory. -/
  | name (text : String)
deriving DecidableEq, Inhabited

namespace Path

/-! ### Anatomy -/

/-- The characters of the path's text. -/
def chars (p : Path) : List Char :=
  p.text.toList

/-- The path spelled by the given characters. -/
def ofChars (cs : List Char) : Path :=
  ⟨String.ofList cs⟩

/-- An absolute path starts at the root. -/
def isAbsolute (p : Path) : Bool :=
  p.chars.head? == some '/'

/-- The anchor of a path, which is `/`, a leading `.` or empty, and the text after it. -/
def anchored : List Char → List Char × List Char
  | '/' :: rest => (['/'], rest)
  | ['.'] => (['.'], [])
  | '.' :: '/' :: rest => (['.'], '/' :: rest)
  | rest => ([], rest)

/-- The anchor of the path. -/
def anchor (p : Path) : List Char :=
  (anchored p.chars).1

/-- The pieces between slashes after the anchor. -/
def segments (p : Path) : List (List Char) :=
  Text.splitOn '/' (anchored p.chars).2

/-- A segment that stands for no component. -/
def isSilent (segment : List Char) : Bool :=
  segment == [] || segment == ['.']

/-- The component that a segment stands for. -/
def segmentComponent (segment : List Char) : Component :=
  if segment = ['.', '.'] then .parent else .name (String.ofList segment)

/-- The component that the anchor stands for, if any. -/
def anchorComponent : List Char → List Component
  | ['/'] => [.root]
  | ['.'] => [.current]
  | _ => []

/-- The components of the path, from the outermost. -/
def components (p : Path) : List Component :=
  anchorComponent p.anchor ++
    (p.segments.filter fun segment => !isSilent segment).map segmentComponent

/-- Whether two paths have the same components. -/
def same (p q : Path) : Bool :=
  p.components == q.components

/-- Whether the components of `base` are the first components of `p`. -/
def startsWith (p base : Path) : Bool :=
  base.components.isPrefixOf p.components

/-! ### Parents and names -/

/-- The path with the given anchor and, after it, the given segments in reverse. -/
def ofReversed (anchor : List Char) (segments : List (List Char)) : Path :=
  ofChars (anchor ++ Text.join '/' segments.reverse)

/-- The paths above one, the nearest first, from its anchor and its segments in reverse:
each proper segment taken off leaves what stands before it, less silent segments. Above a
leading `.` there is the empty path. -/
def aboveReversed (anchor : List Char) : List (List Char) → List Path
  | [] => if anchor = ['.'] then [⟨""⟩] else []
  | segment :: rest =>
    if isSilent segment then aboveReversed anchor rest
    else ofReversed anchor (rest.dropWhile isSilent) :: aboveReversed anchor rest

/-- The paths above `p`, the nearest first. -/
def above (p : Path) : List Path :=
  aboveReversed p.anchor p.segments.reverse

/-- The path without its last component; the root and the empty path have none. -/
def parent? (p : Path) : Option Path :=
  p.above.head?

/-- The path itself and the paths above it, the nearest first. -/
def ancestors (p : Path) : List Path :=
  p :: p.above

/-- The last component, if it is a name. -/
def fileName? (p : Path) : Option String :=
  match p.components.getLast? with
  | some (.name text) => some text
  | _ => none

/-- The part of the file name after its last dot. A dot that starts the name, and a name
without one, give none. -/
def extension? (p : Path) : Option String := do
  let name ← p.fileName?
  match (Text.splitOn '.' name.toList).reverse with
  | last :: rest@(_ :: _) => if rest = [[]] then none else some (String.ofList last)
  | _ => none

/-! ### Building paths -/

/-- `q` below `p`; an absolute `q` replaces `p`. -/
def join (p q : Path) : Path :=
  if q.isAbsolute then q
  else if p.chars = [] ∨ p.chars.getLast? = some '/' then ⟨p.text ++ q.text⟩
  else ⟨p.text ++ "/" ++ q.text⟩

/-- The spelling of a component on its own. -/
def ofComponent : Component → Path
  | .root => ⟨"/"⟩
  | .current => ⟨"."⟩
  | .parent => ⟨".."⟩
  | .name text => ⟨text⟩

/-- The path that spells the components in the plainest way. -/
def ofComponents (cs : List Component) : Path :=
  cs.foldl (fun p c => p.join (ofComponent c)) ⟨""⟩

/-- One component put on a stack of components, the last one first: `.` is dropped, `..`
takes a name away, is dropped at the root, and stays anywhere else. -/
def pushComponent (stack : List Component) : Component → List Component
  | .current => stack
  | .parent =>
    match stack with
    | .name _ :: rest => rest
    | .root :: _ => stack
    | _ => .parent :: stack
  | c => c :: stack

/-- The components with `.` and `..` resolved without looking at any directory. -/
def resolveDots (cs : List Component) : List Component :=
  (cs.foldl pushComponent []).reverse

/-- `file` below `directory`, with `.` and `..` resolved by the spelling alone. -/
def normalize (directory file : Path) : Path :=
  ofComponents (resolveDots (directory.join file).components)

/-- How to get from the components `base` to the components `target`, both taken from the
same start; `none` where `base` climbs above a place that is not known. The flag says
whether the two still agree. -/
def stepsBetween : Bool → List Component → List Component → Option (List Component)
  | _, [], [] => some []
  | _, target, [] => some target
  | _, [], base => some (base.map fun _ => .parent)
  | agree, c :: target, b :: base =>
    if agree ∧ c = b then stepsBetween true target base
    else if b = .current then (stepsBetween false target base).map (c :: ·)
    else if b = .parent then none
    else some (.parent :: base.map (fun _ => .parent) ++ c :: target)

/-- The path that leads from the directory `base` to `p`, both read from the same place.
An absolute path needs no start; from an absolute `base` a relative path is not found. -/
def relativeTo? (p base : Path) : Option Path :=
  if p.isAbsolute = base.isAbsolute then
    (stepsBetween true p.components base.components).map ofComponents
  else if p.isAbsolute then some p
  else none

end Path

end LintHost
