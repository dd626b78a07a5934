import LintHost.Shell.Machine
import LintHost.Shell.Pattern

/-!
# The values of words

A word as it is written becomes *fields*, the arguments that a command is given. It is turned
into atoms first: characters, each with whether it is quoted and whether it is subject to
splitting, and marks that tell a field that is empty from none. Then the atoms are split at
the separators that `IFS` holds, and each field is a pattern that may stand for the paths of
files.

What the commands are run by whose output stands in a word is an argument.
-/

namespace LintHost.Shell

/-! ### Atoms -/

/-- What a word consists of when everything in it has its value. -/
inductive Atom where
  | char (c : Char) (quoted splits : Bool)
  /-- Something that makes a field, even if it is empty. -/
  | mark
  /-- The end of an argument, where a field ends. -/
  | cut
deriving DecidableEq, Inhabited

namespace Atom

/-- The atoms of a text. -/
def ofText (text : Raw) (quoted splits : Bool) : List Atom :=
  text.toList.map fun c => .char c quoted splits

/-- The characters of atoms, each with whether it is quoted. -/
def pattern (atoms : List Atom) : Pattern :=
  atoms.filterMap fun a =>
    match a with
    | .char c quoted _ => some (c, quoted)
    | _ => none

/-- The text of atoms. -/
def text (atoms : List Atom) : Raw :=
  String.ofList (pattern atoms).written

/-- The atoms of arguments that stay apart. Quoted ones are fields even if they are empty, and
others may be split. -/
def apart (quoted : Bool) : List Raw → List Atom
  | [] => []
  | [a] => alone a
  | a :: rest => alone a ++ .cut :: apart quoted rest
where
  /-- The atoms of one argument. -/
  alone (a : Raw) : List Atom :=
    if quoted then .mark :: ofText a true false else ofText a false true

end Atom

/-! ### Fields -/

/-- A blank that ends fields without making empty ones. -/
def isSoftSeparator (c : Char) : Bool :=
  c == ' ' || c == '\t' || c == '\n'

/-- How far the splitting has come at the end of a field. -/
inductive Splitting where
  /-- In a field, or before the first one. -/
  | inField
  /-- After a separator; blanks are passed over, and one more separator if there were only
  blanks. -/
  | between (onlyBlanks : Bool)
deriving DecidableEq, Inhabited

/-- The fields of atoms, after one that has been begun and is kept in reverse. -/
def splitFields (separators : List Char) : Option Pattern → Splitting → List Atom → List Pattern
  | begun, _, [] => (begun.map List.reverse).toList
  | begun, _, .mark :: atoms => splitFields separators (some (begun.getD [])) .inField atoms
  | begun, _, .cut :: atoms =>
    (begun.map List.reverse).toList ++ splitFields separators none .inField atoms
  | begun, state, .char c quoted splits :: atoms =>
    if splits ∧ separators.contains c then
      let soft := isSoftSeparator c
      match begun, state with
      | some field, _ => field.reverse :: splitFields separators none (.between soft) atoms
      | none, .inField =>
        if soft then splitFields separators none .inField atoms
        else [] :: splitFields separators none (.between false) atoms
      | none, .between onlyBlanks =>
        if soft then splitFields separators none (.between onlyBlanks) atoms
        else if onlyBlanks then splitFields separators none (.between false) atoms
        else [] :: splitFields separators none (.between false) atoms
    else splitFields separators (some ((c, quoted) :: begun.getD [])) .inField atoms

/-! ### Paths -/

/-- A pattern cut at slashes. -/
def segments (p : Pattern) : List Pattern :=
  p.foldr (fun c parts =>
    if c.1 = '/' then [] :: parts
    else match parts with
      | part :: parts => (c :: part) :: parts
      | [] => [[c]]) [[]]

/-- Whether a name counts for a pattern: one that starts with a dot only if the pattern does,
too. -/
def admitsName (p : Pattern) (name : List Char) : Bool :=
  (name.head? != some '.' || p.head?.any fun c => c.1 == '.') && p.isMatch name

/-- The paths that segments stand for, after the path so far. -/
def pathsFrom (w : World) (directory : Location) (before : List Char) :
    List Pattern → List (List Char)
  | [] =>
    if (w.look directory ⟨Raw.toText (String.ofList before)⟩).toBool then [before] else []
  | segment :: rest =>
    let slash := if rest.isEmpty then [] else ['/']
    if ¬ segment.hasWildcard then
      pathsFrom w directory (before ++ segment.written ++ slash) rest
    else
      let inside := Raw.toText (String.ofList (if before.isEmpty then ['.'] else before))
      match { w.files with current := directory }.locate ⟨inside⟩ with
      | .error _ => []
      | .ok place =>
        let names := (w.names place).map fun name => (Raw.ofText name).toList
        (names.filter (admitsName segment)).flatMap fun name =>
          pathsFrom w directory (before ++ name ++ slash) rest

/-- The paths of the files that a field stands for, in order; or the field itself if there are
none. -/
def expandPath (m : Machine) (field : Pattern) : List Raw :=
  let literal := String.ofList field.written
  if m.hasOption 'f' ∨ ¬ field.hasWildcard then [literal]
  else
    match pathsFrom m.world m.directory [] (segments field) with
    | [] => [literal]
    | paths => (paths.map String.ofList).mergeSort fun a b => a ≤ b

/-! ### Homes -/

/-- A text with the home directory in place of a tilde at its start. What follows the text in
the word is not part of the name after the tilde. -/
def expandTilde (home : Option Raw) (isLast : Bool) (text : List Char) : Option (Raw × List Char) :=
  match text, home with
  | '~' :: rest, some home =>
    if rest.head? = some '/' ∨ (rest.isEmpty ∧ isLast) then some (home, rest) else none
  | _, _ => none

/-- A word with the home directory in place of a tilde at its start; in an assignment also
after each colon. -/
def withHome (home : Option Raw) (colons : Bool) : Word → Word
  | .text text false :: rest =>
    let parts := if colons then text.splitOn ":" else [text]
    let expanded := (parts.zipIdx).map fun (part, i) =>
      let isLast := i + 1 < parts.length || rest.isEmpty
      match expandTilde home isLast part.toList with
      | some (home, rest) => [Piece.text home true, .text (String.ofList rest) false]
      | none => [.text part false]
    ([Piece.text ":" false].intercalate expanded) ++ rest
  | word => word

/-! ### Pieces -/

/-- How the commands are run whose output stands in a word. -/
abbrev OutputOf := Option Command → Act Raw

/-- Whether a parameter stands for all arguments. -/
def isArgumentList (name : String) : Bool :=
  name == "@" || name == "*"

/-- Whether a parameter stands for arguments that stay apart: values are split, and if they
are quoted, they are so one by one. -/
def keepsApart (name : String) (quoted splits : Bool) : Bool :=
  isArgumentList name && splits && (!quoted || name == "@")

/-- The value of a parameter as a text; the first separator stands between arguments. -/
def parameterText? (m : Machine) (name : String) : Option Raw :=
  if isArgumentList name then
    some ((String.ofList (m.separators.take 1)).intercalate m.arguments)
  else m.parameter? name

/-- The atoms of the value of a parameter. -/
def parameterAtoms (m : Machine) (name : String) (quoted splits : Bool) : List Atom :=
  if keepsApart name quoted splits then Atom.apart quoted m.arguments
  else Atom.ofText ((parameterText? m name).getD "") quoted (splits && !quoted)

/-- What stands between arguments that stay apart while they are one text. -/
def argumentEnd : Raw := "\x00"

/-- The value of a parameter that has to have one if an option says so. -/
def demandSet (name : String) : Act Raw := do
  let m ← get
  match parameterText? m name with
  | some value => return value
  | none =>
    if m.hasOption 'u' then fail (name ++ ": parameter not set")
    else return ""

/-- A text without the ends of lines at its end. -/
def dropNewlines (text : Raw) : Raw :=
  String.ofList ((text.toList.reverse.dropWhile (· = '\n')).reverse)

/-- The value of a variable in an expression. -/
def arithmeticVariable (name : String) : Act Int := do
  let text := ((← get).parameter? name).getD ""
  match integer? text with
  | some n => return n
  | none => fail ("Illegal number: " ++ text)

/-- The value of an arithmetic expression. -/
def evaluate (text : Raw) : Act Int := do
  let refuse (e : ArithmeticFault) : Act Int :=
    fail ("arithmetic expression: " ++ e.message ++ ": \"" ++ text ++ "\"")
  match Expression.read text with
  | .error e => refuse e
  | .ok e => e.value arithmeticVariable (fun name n => assign name (toString n)) refuse

mutual

/-- The atoms of a piece. Values may be split, and in the word that stands for a missing value
text may be, too. -/
def pieceAtoms (outputOf : OutputOf) (splits inWord : Bool) : Piece → Act (List Atom)
  | .text text quoted => return Atom.ofText text quoted (splits && inWord && !quoted)
  | .mark => return [.mark]
  | .output body quoted => do
    let text ← outputOf body
    return Atom.ofText (dropNewlines text) quoted (splits && !quoted)
  | .arithmetic expression quoted => do
    let n ← evaluate (Atom.text (← wordAtoms outputOf false false expression))
    return Atom.ofText (toString n) quoted (splits && !quoted)
  | .parameter name use quoted => useAtoms outputOf splits name quoted use

/-- The atoms of what is made of the value of a parameter. -/
def useAtoms (outputOf : OutputOf) (splits : Bool) (name : String) (quoted : Bool) :
    Use → Act (List Atom)
  | .plain => do
    let _ ← demandSet name
    return parameterAtoms (← get) name quoted splits
  | .length => do
    let value ← demandSet name
    return Atom.ofText (Nat.repr value.length) quoted (splits && !quoted)
  | .fallback emptyToo word => do
    match (parameterText? (← get) name).filter fun v => !(emptyToo && v == "") with
    | some _ => return parameterAtoms (← get) name quoted splits
    | none => wordAtoms outputOf splits (!quoted) word
  | .assign emptyToo word => do
    match (parameterText? (← get) name).filter fun v => !(emptyToo && v == "") with
    | some _ => return parameterAtoms (← get) name quoted splits
    | none =>
      assign name (Atom.text (← wordAtoms outputOf false false word))
      return parameterAtoms (← get) name quoted splits
  | .demand emptyToo message => do
    match (parameterText? (← get) name).filter fun v => !(emptyToo && v == "") with
    | some _ => return parameterAtoms (← get) name quoted splits
    | none =>
      let atoms ← wordAtoms outputOf false false message
      let missing := if emptyToo then "parameter not set or null" else "parameter not set"
      fail (name ++ ": " ++ if atoms.isEmpty then missing else Atom.text atoms)
  | .instead emptyToo word => do
    match (parameterText? (← get) name).filter fun v => !(emptyToo && v == "") with
    | some _ => wordAtoms outputOf splits (!quoted) word
    | none => return []
  | .trim side longest pattern => do
    let value ← demandSet name
    let isApart := keepsApart name quoted splits
    let all := argumentEnd.intercalate (← get).arguments
    let value := if isApart then all else value
    let p := Atom.pattern (← wordAtoms outputOf false false pattern)
    let trimmed := match side with
      | .front => p.trimFront longest value.toList
      | .back => p.trimBack longest value.toList
    let trimmed := String.ofList trimmed
    if isApart then return Atom.apart quoted (trimmed.splitOn argumentEnd)
    else return Atom.ofText trimmed quoted (splits && !quoted)
  | .bad => fail "Bad substitution"

/-- The atoms of a word. -/
def wordAtoms (outputOf : OutputOf) (splits inWord : Bool) : List Piece → Act (List Atom)
  | [] => return []
  | piece :: pieces => do
    let first ← pieceAtoms outputOf splits inWord piece
    return first ++ (← wordAtoms outputOf splits inWord pieces)

end

/-! ### Words -/

/-- The fields of a word. -/
def fields (outputOf : OutputOf) (word : Word) : Act (List Raw) := do
  let home := (← get).valueOf? "HOME"
  let atoms ← wordAtoms outputOf true false (withHome home false word)
  let m ← get
  return (splitFields m.separators none .inField atoms).flatMap (expandPath m)

/-- The value of a word that is not split. -/
def wholeText (outputOf : OutputOf) (word : Word) : Act Raw := do
  let home := (← get).valueOf? "HOME"
  return Atom.text (← wordAtoms outputOf false false (withHome home false word))

/-- The value of a word in an assignment. -/
def assignedText (outputOf : OutputOf) (word : Word) : Act Raw := do
  let home := (← get).valueOf? "HOME"
  return Atom.text (← wordAtoms outputOf false false (withHome home true word))

/-- The pattern that a word is. -/
def wordPattern (outputOf : OutputOf) (word : Word) : Act Pattern := do
  let home := (← get).valueOf? "HOME"
  return Atom.pattern (← wordAtoms outputOf false false (withHome home false word))

end LintHost.Shell
