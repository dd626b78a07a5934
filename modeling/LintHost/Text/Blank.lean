import LintHost.Text.Split

/-!
# Blank characters and trimming

What counts as white space around the keys, values and headers of a configuration file:
the property `White_Space` of the Unicode character database, which holds of the line
terminators and of the spaces outside ASCII too.
-/

namespace LintHost.Text

/-- White space, by the Unicode property of that name. -/
def isBlank (c : Char) : Bool :=
  (0x09 ≤ c.val && c.val ≤ 0x0d) || c.val = 0x20 || c.val = 0x85 || c.val = 0xa0 ||
  c.val = 0x1680 || (0x2000 ≤ c.val && c.val ≤ 0x200a) || c.val = 0x2028 || c.val = 0x2029 ||
  c.val = 0x202f || c.val = 0x205f || c.val = 0x3000

/-- Drops the white space at the start. -/
def trimStart (cs : List Char) : List Char :=
  cs.dropWhile isBlank

/-- Drops the white space at the end. -/
def trimEnd (cs : List Char) : List Char :=
  dropTrailing isBlank cs

/-- Drops the white space at both ends. -/
def trim (cs : List Char) : List Char :=
  trimEnd (trimStart cs)

end LintHost.Text
