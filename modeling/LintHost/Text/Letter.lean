import LintHost.Text.LetterCase
import LintHost.Text.Runs
import LintHost.Text.Table.Letter

/-!
# Letters and capitals

Which characters are letters, and the capital of each: the character that lowers to it, but
for some letters whose capital lowers to another one.
-/

namespace LintHost.Text

/-- A letter. -/
def isLetter (c : Char) : Bool :=
  if c.toNat < 0x80 then c.isAlpha else inRuns Table.letters c.toNat

/-- The code points whose capital lowers to another one, or which have none. -/
def oddCapitals : List (Nat × Nat) :=
  [(0xb5, 0x39c), (0xdf, 0xdf), (0x131, 0x49), (0x17f, 0x53), (0x1c5, 0x1c4), (0x1c8, 0x1c7),
    (0x1cb, 0x1ca), (0x1f2, 0x1f1), (0x345, 0x399), (0x3c2, 0x3a3), (0x3d0, 0x392),
    (0x3d1, 0x398), (0x3d5, 0x3a6), (0x3d6, 0x3a0), (0x3f0, 0x39a), (0x3f1, 0x3a1),
    (0x3f5, 0x395), (0x1c80, 0x412), (0x1c81, 0x414), (0x1c82, 0x41e), (0x1c83, 0x421),
    (0x1c84, 0x422), (0x1c85, 0x422), (0x1c86, 0x42a), (0x1c87, 0x462), (0x1c88, 0xa64a),
    (0x1e9b, 0x1e60), (0x1fbe, 0x399)]

/-- The code point that a run lowers to the given one. -/
def Table.LowerRun.raise? (run : Table.LowerRun) (n : Nat) : Option Nat :=
  let raised := n + run.down - run.up
  if run.up ≤ n + run.down ∧ run.covers raised then some raised else none

/-- The capital of a letter; any other character is its own. -/
def upperChar (c : Char) : Char :=
  if c.toNat < 0x80 then c.toUpper
  else match oddCapitals.lookup c.toNat with
    | some n => Char.ofNat n
    | none => ((Table.lowerRuns.findSome? (·.raise? c.toNat)).map Char.ofNat).getD c

/-- The small letter of a capital, as one character. -/
def lowerOne (c : Char) : Char :=
  match lowerChar c with
  | [lower] => lower
  | _ => c

end LintHost.Text
