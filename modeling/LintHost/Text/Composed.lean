import LintHost.Text.Table.CombiningClass
import LintHost.Text.Table.Composite

/-!
# Composed form

One text can be spelt with a composed character or with a letter and the marks on it. Its
composed form, normalization form C of the Unicode standard, is the same for all such
spellings: every character is taken apart, marks that follow one letter are put in the order
of their classes, and what belongs together is composed again.

A mark joins the letter before it unless another mark of its own class or a higher one stands
between them. The syllables of Hangul are composed by arithmetic, all others by a table, which
leaves out capital letters: the form is taken of lowered text only.
-/

namespace LintHost.Text

/-! ### Combining classes -/

/-- The class of a mark, and zero for every character that is not reordered. -/
def combiningClass (c : Char) : Nat :=
  match Table.classRuns.find? fun run => run.first ≤ c.toNat && c.toNat ≤ run.last with
  | some run => run.combiningClass
  | none => 0

/-! ### The syllables of Hangul -/

namespace Hangul

/-- The first syllable. -/
def syllableBase : Nat := 0xac00

/-- The first letter that opens a syllable. -/
def leadBase : Nat := 0x1100

/-- The first letter in the middle of a syllable. -/
def vowelBase : Nat := 0x1161

/-- The place before the first letter that closes a syllable. -/
def tailBase : Nat := 0x11a7

/-- How many letters open a syllable, and how many stand in the middle; one of 28 tails, the
first of which is none, closes it. -/
def leads : Nat := 19

/-- How many letters stand in the middle of a syllable. -/
def vowels : Nat := 21

/-- How many ways there are to close a syllable. -/
def tails : Nat := 28

/-- The letters of a syllable. -/
def letters? (c : Char) : Option (List Char) :=
  let n := c.toNat - syllableBase
  if syllableBase ≤ c.toNat ∧ n < leads * vowels * tails then
    let tail := n % tails
    some (Char.ofNat (leadBase + n / (vowels * tails)) ::
      Char.ofNat (vowelBase + n / tails % vowels) ::
      if tail = 0 then [] else [Char.ofNat (tailBase + tail)])
  else none

/-- The syllable of two letters, or of a syllable that is still open and a letter. -/
def join? (first second : Char) : Option Char :=
  let lead := first.toNat - leadBase
  let vowel := second.toNat - vowelBase
  let syllable := first.toNat - syllableBase
  let tail := second.toNat - tailBase
  if leadBase ≤ first.toNat ∧ lead < leads ∧ vowelBase ≤ second.toNat ∧ vowel < vowels then
    some (Char.ofNat (syllableBase + (lead * vowels + vowel) * tails))
  else if syllableBase ≤ first.toNat ∧ syllable < leads * vowels * tails ∧ syllable % tails = 0 ∧
      tailBase < second.toNat ∧ tail < tails then
    some (Char.ofNat (first.toNat + tail))
  else none

end Hangul

/-! ### Taking apart -/

/-- The parts of a character, which are taken apart in turn down to the given depth. -/
def partsOf : Nat → Char → List Char
  | 0, c => [c]
  | depth + 1, c =>
    match Hangul.letters? c, Table.composites.find? (·.whole == c.toNat) with
    | some letters, _ => letters
    | none, some pair => partsOf depth (Char.ofNat pair.first) ++ [Char.ofNat pair.second]
    | none, none => [c]

/-- No character has more marks on it than this. -/
def greatestDepth : Nat := 4

/-- A character put before a text in which marks are in order: a mark goes behind those of
lower classes. -/
def placeMark (c : Char) : List Char → List Char
  | [] => [c]
  | d :: ds =>
    if 0 < combiningClass d ∧ combiningClass d < combiningClass c then d :: placeMark c ds
    else c :: d :: ds

/-- The text taken apart, with its marks in order. -/
def decomposed (cs : List Char) : List Char :=
  (cs.flatMap (partsOf greatestDepth)).foldr placeMark []

/-! ### Composing -/

/-- The character that two characters compose. -/
def compose? (first second : Char) : Option Char :=
  match Hangul.join? first second with
  | some syllable => some syllable
  | none =>
    (Table.composites.find? fun pair => pair.first == first.toNat && pair.second == second.toNat).map
      fun pair => Char.ofNat pair.whole

/-- Composes what follows a letter; `marks` are those in between that did not join it, the last
one first. -/
def composeAfter (letter : Char) (marks : List Char) : List Char → List Char
  | [] => letter :: marks.reverse
  | c :: cs =>
    let isFree := match marks with
      | [] => true
      | mark :: _ => combiningClass mark < combiningClass c
    match if isFree then compose? letter c else none with
    | some whole => composeAfter whole marks cs
    | none =>
      if combiningClass c = 0 then letter :: marks.reverse ++ composeAfter c [] cs
      else composeAfter letter (c :: marks) cs

/-- Composes a text whose marks are in order; marks at its start have nothing to join. -/
def composeAll : List Char → List Char
  | [] => []
  | c :: cs => if combiningClass c = 0 then composeAfter c [] cs else c :: composeAll cs

/-- The composed form of a text. -/
def composed (cs : List Char) : List Char :=
  composeAll (decomposed cs)

end LintHost.Text
