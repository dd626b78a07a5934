import LintHost.Host.Direction
import LintHost.Host.Punycode
import LintHost.Host.Table.Joining
import LintHost.Host.Table.Refused
import LintHost.Host.Table.Replaced
import LintHost.Text.Composed
import LintHost.Text.LetterCase
import LintHost.Text.Split
import LintHost.Text.Table.Unprintable

/-!
# Domain names

A domain name may be typed with any letters, and is kept with ASCII alone. What is typed is
first brought into the form that UTS #46 prescribes: capital letters are lowered, letters of
compatible shape are replaced, some signs are left out, and the result is composed. Then each
label beyond ASCII is checked and written in Punycode after `xn--`. A label that is already so
written is read, and has to be one that could have been written.

`Domain.toAscii?` gives nothing for a name with a character that is refused or with a label that
is not sound.
-/

namespace LintHost.Host

open Text (inRuns)

/-! ### Single characters -/

/-- The code points of the capital letters of Cherokee, which are not lowered. -/
def cherokeeCapitals : List (Nat × Nat) := [(0x13a0, 0x13f5)]

/-- The sign that asks for the unjoined form of the letters around it. -/
def nonJoiner : Char := '\u200c'

/-- The sign that asks for the joined form of the letters around it. -/
def joiner : Char := '\u200d'

/-- The replacement of a character in the table, if it is there. -/
def replacementOf? (c : Char) : Option (List Char) := do
  let block ← (Table.replaced.filter fun block => block.first ≤ c.toNat).getLast?
  (Text.splitOn ' ' block.texts.toList)[c.toNat - block.first]?

/-- What a character becomes in a domain name; nothing if it is refused. -/
def mapChar? (c : Char) : Option (List Char) :=
  if c.toNat < 0x80 then some [c.toLower]
  else if c = nonJoiner ∨ c = joiner ∨ inRuns cherokeeCapitals c.toNat then some [c]
  else if inRuns Table.ignored c.toNat then some []
  else if inRuns Text.Table.unprintable c.toNat ∨ inRuns Table.refused c.toNat then none
  else some ((replacementOf? c).getD (Text.lowerChar c))

/-- A text in the form that domain names have; nothing if a character is refused. -/
def mapText? (cs : List Char) : Option (List Char) := do
  some (Text.composed (← cs.mapM mapChar?).flatten)

/-- Whether a character may not stand in a domain name for what it means in a URI. -/
def isReserved (c : Char) : Bool :=
  c.toNat ≤ 0x20 || c.toNat == 0x7f || "%#/:<>?@[\\]^|".toList.contains c

/-! ### Labels -/

/-- Whether a character is a mark. -/
def isMark (c : Char) : Bool :=
  inRuns Text.Table.nonspacingMarks c.toNat || inRuns Text.Table.spacingMarks c.toNat

/-- Whether letters join across a character. -/
def isTransparent (c : Char) : Bool :=
  inRuns Text.Table.nonspacingMarks c.toNat || c == '𞥋'

/-- The combining class of the marks that join consonants. -/
def virama : Nat := 9

/-- Whether a sign that asks for a form of the letters around it has such letters; `before` holds
the characters before it, the last one first. -/
def hasJoiningContext (c : Char) (before after : List Char) : Bool :=
  (before.head?.map Text.combiningClass == some virama) ||
    (c == nonJoiner &&
      ((before.dropWhile isTransparent).head?.any fun d => inRuns Table.joinsNext d.toNat) &&
      ((after.dropWhile isTransparent).head?.any fun d => inRuns Table.joinsPrevious d.toNat))

/-- Whether every such sign in the rest of a label has its letters. -/
def joinersFit (before : List Char) : List Char → Bool
  | [] => true
  | c :: after =>
    (c != nonJoiner && c != joiner || hasJoiningContext c before after) &&
      joinersFit (c :: before) after

/-- A label as it is shown and as it is written. -/
structure Label where
  shown : List Char
  written : List Char

/-- Whether a text holds ASCII characters only. -/
def isAscii (cs : List Char) : Bool :=
  cs.all fun c => c.toNat < 0x80

/-- What starts the written form of a label beyond ASCII. -/
def encodedMark : List Char := "xn--".toList

/-- Whether a label may be shown: it starts with no mark, its joiners have their letters, and
none of its characters is reserved. -/
def isSound (shown : List Char) : Bool :=
  !(shown.head?.any isMark) && joinersFit [] shown && !shown.any isReserved

/-- The label of a mapped text. What is read from Punycode is beyond ASCII and is left alone by
the mapping. -/
def Label.ofText? (text : List Char) : Option Label := do
  let label ←
    if encodedMark.isPrefixOf text then
      if isAscii text then do
        let shown ← Punycode.decode? (text.drop encodedMark.length)
        if isAscii shown ∨ mapText? shown ≠ some shown then none
        some (⟨shown, text⟩ : Label)
      else none
    else some ⟨text, if isAscii text then text else encodedMark ++ Punycode.encode text⟩
  if isSound label.shown then some label else none

/-! ### Names -/

/-- A domain name written with ASCII characters. -/
def Domain.toAscii? (name : List Char) : Option (List Char) := do
  let labels ← (Text.splitOn '.' (← mapText? name)).mapM Label.ofText?
  let directions := labels.map fun label => label.shown.map Direction.of
  if directions.any runsBackward && !directions.all runsOneWay then none
  some (Text.join '.' (labels.map Label.written))

end LintHost.Host
