import LintHost.Host.Table.Direction
import LintHost.Text.Runs
import LintHost.Text.Table.Mark

/-!
# The direction of labels

A host name that holds letters written from right to left is only safe to show if each of its
labels runs in one direction. The rule is that of RFC 5893: a label starts with a letter, whose
direction it has; it holds no letter of the other direction; it ends with a letter or a number,
apart from marks; and a label that runs from right to left does not mix two kinds of numbers.
-/

namespace LintHost.Host

/-- How a character takes part in the order of what is shown. -/
inductive Direction where
  | leftToRight
  | rightToLeft
  | europeanNumber
  | arabicNumber
  | neutral
  | mark
deriving DecidableEq

open Text (inRuns)

/-- The direction of a character that may stand in a host name. -/
def Direction.of (c : Char) : Direction :=
  let n := c.toNat
  if n < 0x80 then
    if c.isAlpha then .leftToRight else if c.isDigit then .europeanNumber else .neutral
  else if inRuns Table.rightToLeft n then .rightToLeft
  else if inRuns Table.arabicNumbers n then .arabicNumber
  else if inRuns Table.europeanNumbers n then .europeanNumber
  else if inRuns Table.neutral n then .neutral
  else if inRuns Text.Table.nonspacingMarks n && !inRuns Table.leftToRightMarks n then .mark
  else .leftToRight

/-- Whether a label with these directions makes a host name one that runs both ways. -/
def runsBackward (label : List Direction) : Bool :=
  label.any fun d => d = .rightToLeft ∨ d = .arabicNumber

/-- Whether the last character that is no mark is one of the given kinds. -/
def endsWith (kinds : List Direction) (label : List Direction) : Bool :=
  match label.reverse.dropWhile (· == .mark) with
  | [] => false
  | d :: _ => kinds.contains d

/-- Whether a label runs in one direction. -/
def runsOneWay (label : List Direction) : Bool :=
  match label with
  | [] => true
  | .rightToLeft :: _ =>
    !label.contains .leftToRight &&
      endsWith [.rightToLeft, .europeanNumber, .arabicNumber] label &&
      !(label.contains .europeanNumber && label.contains .arabicNumber)
  | .leftToRight :: _ =>
    !label.contains .rightToLeft && !label.contains .arabicNumber &&
      endsWith [.leftToRight, .europeanNumber] label
  | _ => false

end LintHost.Host
