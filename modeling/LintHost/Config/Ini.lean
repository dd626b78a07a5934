import LintHost.Text.Blank
import LintHost.Text.LetterCase

/-!
# Configuration files

The dialect of `mypy.ini` and `setup.cfg`, read so that a value here is the value that the
checker sees:

* `[section]` headers; keys before the first header go to the section without a name;
* `key = value` or `key: value`, cut at the first delimiter; a bare key means `true`;
* keys in lower case, names and values trimmed;
* `#` and `;` start a comment that takes the whole line;
* an indented line continues the value above it, after a line feed.

Reading never fails: a line that fits nothing is passed over. `Ini.Reading.line` takes one
line, and the document is what a fold over the lines leaves. What the reader carries along is
the section that keys go to and the *open* key, whose value an indented line would continue.
-/

namespace LintHost

namespace Ini

/-! ### Documents -/

/-- A list of pairs with the value of a key put in: at the key's place, or at the end if it
is new. -/
def assign {α : Type} (key : String) (value : α) : List (String × α) → List (String × α)
  | [] => [(key, value)]
  | (k, v) :: rest => if k = key then (key, value) :: rest else (k, v) :: assign key value rest

/-- The keys of a section with their values, in the order in which they first occurred. -/
abbrev Section := List (String × String)

/-- The sections of a file, in the order in which they first occurred. -/
structure Document where
  sections : List (String × Section) := []
deriving DecidableEq, Inhabited

namespace Document

/-- The section of a name. -/
def section? (doc : Document) (name : String) : Option Section :=
  doc.sections.lookup name

/-- The value of a key, given in lower case, in a section. -/
def get? (doc : Document) (name key : String) : Option String :=
  (doc.section? name).bind fun entries => entries.lookup key

/-- Whether a section has a key, given in lower case. -/
def hasKey (doc : Document) (name key : String) : Bool :=
  (doc.get? name key).isSome

/-- The document with a section of the name, empty if it is new. -/
def withSection (doc : Document) (name : String) : Document :=
  ⟨assign name ((doc.section? name).getD []) doc.sections⟩

/-- The document with a key of a section set. -/
def set (doc : Document) (name key value : String) : Document :=
  ⟨assign name (assign key value ((doc.section? name).getD [])) doc.sections⟩

end Document

/-! ### Reading -/

/-- What has been read so far: the document, the section that keys go to, and the key whose
value an indented line would continue. -/
structure Reading where
  document : Document := {}
  current : String := ""
  openKey : Option String := none
deriving DecidableEq, Inhabited

/-- A line whose first visible character starts a comment. -/
def isComment (line : List Char) : Bool :=
  line.head? == some '#' || line.head? == some ';'

/-- A line that starts with a blank or a tab. -/
def isIndented (raw : List Char) : Bool :=
  raw.head? == some ' ' || raw.head? == some '\t'

/-- A character that ends a key. -/
def isDelimiter (c : Char) : Bool :=
  c == '=' || c == ':'

/-- The key and the value of a trimmed line; without a delimiter the whole line is the key. -/
def keyAndValue (line : List Char) : List Char × List Char :=
  match line.dropWhile fun c => !isDelimiter c with
  | [] => (line, "true".toList)
  | _ :: value => (Text.trimEnd (line.takeWhile fun c => !isDelimiter c), Text.trimStart value)

/-- The name in a header, given what follows the opening bracket. -/
def headerName? (rest : List Char) : Option (List Char) :=
  if rest.getLast? = some ']' then some (Text.trim rest.dropLast) else none

namespace Reading

/-- The key and the value that an indented line continues. -/
def continued? (r : Reading) (raw : List Char) : Option (String × String) := do
  let key ← r.openKey
  let value ← r.document.get? r.current key
  if isIndented raw then some (key, value) else none

/-- A header, given what follows its opening bracket. One without a closing bracket leaves
the current section as it is. -/
def header (r : Reading) (rest : List Char) : Reading :=
  match headerName? rest with
  | some name =>
    let name := String.ofList name
    { document := r.document.withSection name, current := name, openKey := none }
  | none => { r with openKey := none }

/-- A trimmed line with a key. One with nothing before its delimiter is passed over. -/
def entry (r : Reading) (line : List Char) : Reading :=
  let (key, value) := keyAndValue line
  if key = [] then { r with openKey := none }
  else
    let key := String.ofList (Text.toLower key)
    { r with
      document := r.document.set r.current key (String.ofList value), openKey := some key }

/-- One line of the file. -/
def line (r : Reading) (raw : List Char) : Reading :=
  match Text.trim raw with
  | [] => { r with openKey := none }
  | first :: rest =>
    if isComment (first :: rest) then r
    else match r.continued? raw with
      | some (key, value) =>
        { r with document :=
            r.document.set r.current key (value ++ "\n" ++ String.ofList (first :: rest)) }
      | none => if first = '[' then r.header rest else r.entry (first :: rest)

end Reading

/-- The document of a file's text. -/
def parse (text : String) : Document :=
  ((Text.lines text.toList).foldl Reading.line {}).document

end Ini

end LintHost
