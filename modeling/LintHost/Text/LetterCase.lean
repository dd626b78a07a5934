import LintHost.Text.Runs
import LintHost.Text.Table.Cased
import LintHost.Text.Table.CaseIgnorable
import LintHost.Text.Table.LowerCase

/-!
# Lower case

Keys of configuration files are compared in lower case. Lowering follows the Unicode
standard: each character is replaced by its lower-case mapping, which for the capital I
with a dot is two characters, and a capital sigma becomes a final sigma where it ends a
word, that is, where a cased character stands before it and none after it once
case-ignorable characters are passed over.
-/

namespace LintHost.Text

/-- A cased character that is not case-ignorable. -/
def isCased (c : Char) : Bool :=
  inRuns Table.cased c.toNat

/-- A character that is passed over when the form of a sigma is chosen. -/
def isCaseIgnorable (c : Char) : Bool :=
  inRuns Table.caseIgnorable c.toNat

/-- Whether a code point is one of those that a run lowers. -/
def Table.LowerRun.covers (run : Table.LowerRun) (n : Nat) : Bool :=
  run.first ≤ n && n ≤ run.last && (n - run.first) % run.step == 0

/-- The lower-case mapping of one character: ASCII by the letters `A` to `Z`, any other
by the table, and the capital I with a dot by a small i and a combining dot. -/
def lowerChar (c : Char) : List Char :=
  if c.toNat < 0x80 then [c.toLower]
  else if c.toNat = 0x130 then ['i', '\u0307']
  else match Table.lowerRuns.find? (·.covers c.toNat) with
    | some run => [Char.ofNat (c.toNat + run.up - run.down)]
    | none => [c]

/-- Whether the first character that is not case-ignorable is cased. -/
def startsCased (cs : List Char) : Bool :=
  match cs.dropWhile isCaseIgnorable with
  | [] => false
  | c :: _ => isCased c

/-- Lowers the rest of a text; `before` holds the characters already passed, the last one
first. -/
def lowerFrom (before : List Char) : List Char → List Char
  | [] => []
  | c :: cs =>
    (if c = 'Σ' then
      (if startsCased before && !startsCased cs then ['ς'] else ['σ'])
    else lowerChar c) ++ lowerFrom (c :: before) cs

/-- The text in lower case. -/
def toLower (cs : List Char) : List Char :=
  lowerFrom [] cs

end LintHost.Text
