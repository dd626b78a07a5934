import LintHost.Text.Runs
import LintHost.Text.Table.Mark
import LintHost.Text.Table.Unprintable

/-!
# Quoted text in messages

An error message that names a text shows it between double quotes. Quotes and backslashes
are escaped, the usual controls have their short escapes, and any other character that
would not be seen on its own, such as a control, a format character or a mark that joins
the character before it, is written as its code point in braces.
-/

namespace LintHost.Text

/-- A character that a quoted text shows by its code point. -/
def needsCodePoint (c : Char) : Bool :=
  inRuns Table.unprintable c.toNat || inRuns Table.nonspacingMarks c.toNat ||
    inRuns Table.extendingMarks c.toNat

/-- The written form of one character between quotes. -/
def quoteChar (c : Char) : List Char :=
  if c = '"' then ['\\', '"']
  else if c = '\\' then ['\\', '\\']
  else if c = '\n' then ['\\', 'n']
  else if c = '\r' then ['\\', 'r']
  else if c = '\t' then ['\\', 't']
  else if c.toNat = 0 then ['\\', '0']
  else if c.toNat < 0x7f ∧ 0x20 ≤ c.toNat then [c]
  else if needsCodePoint c then
    ['\\', 'u', '\x7b'] ++ Nat.toDigits 16 c.toNat ++ ['\x7d']
  else [c]

/-- The text between double quotes. -/
def quote (cs : List Char) : List Char :=
  '"' :: cs.flatMap quoteChar ++ ['"']

end LintHost.Text
