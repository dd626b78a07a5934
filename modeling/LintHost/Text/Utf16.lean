/-!
# UTF-16 columns

Editors count columns in UTF-16 code units, of which a character outside the basic
plane takes two. `Text.length16` counts the units of a text, `Text.utf16Column` turns a
column counted in characters into one counted in units, and `Text.encode16` writes the
units themselves, so that a range of units can be compared with the characters it selects.
-/

namespace LintHost.Text

/-- The number of UTF-16 code units of a character. -/
def units16 (c : Char) : Nat :=
  if c.toNat < 0x10000 then 1 else 2

/-- The number of UTF-16 code units of a text. -/
def length16 : List Char → Nat
  | [] => 0
  | c :: cs => units16 c + length16 cs

/-- The number of UTF-16 code units before a column counted in characters; a column past
the end counts as the end. In 32 bits, where it would stop at 2³² - 1, it would be too small
after 2³² units or more. -/
def utf16Column (line : List Char) (column : Nat) : Nat :=
  length16 (line.take column)

/-- The UTF-16 code units of a character: itself, or a high and a low surrogate. -/
def encode16 (c : Char) : List Nat :=
  if c.toNat < 0x10000 then [c.toNat]
  else [0xd800 + (c.toNat - 0x10000) / 0x400, 0xdc00 + (c.toNat - 0x10000) % 0x400]

theorem length_encode16 (c : Char) : (encode16 c).length = units16 c := by
  unfold encode16 units16
  split <;> rfl

end LintHost.Text
