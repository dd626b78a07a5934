import LintHost.Text.Split

/-!
# The lines of a buffer

Every position that a checker reports is bounded by the buffer it was given, so the
buffer is cut into lines once: `SourceLines.ofText` records the byte offset at which each
line starts, and a line is read by cutting the text between two offsets.

A line runs from its start to the line feed before the next start, or to the end of the
text, and gives up one carriage return at its end. A buffer has one line more than it has
line feeds, so it always has at least one.

Lines and characters are counted without a limit. Counts that are kept in 32 bits, and stop at
2³² - 1, are the same for every buffer that has fewer than 2³² - 1 line feeds and no line of
2³² characters or more, and a position in 32 bits reaches no further.
-/

namespace LintHost

/-- A buffer with the byte offsets at which its lines start. -/
structure SourceLines where
  text : String
  starts : List Nat
deriving DecidableEq, Inhabited

namespace SourceLines

/-! ### Cutting by bytes -/

/-- The characters after the first `n` bytes; `none` where these end inside a character
or beyond the text. -/
def dropBytes : Nat → List Char → Option (List Char)
  | 0, cs => some cs
  | _, [] => none
  | n, c :: cs => if c.utf8Size ≤ n then dropBytes (n - c.utf8Size) cs else none

/-- The characters that make up the first `n` bytes; `none` where these end inside a
character or beyond the text. -/
def takeBytes : Nat → List Char → Option (List Char)
  | 0, _ => some []
  | _, [] => none
  | n, c :: cs =>
    if c.utf8Size ≤ n then (takeBytes (n - c.utf8Size) cs).map (c :: ·) else none

/-- The characters between two byte offsets; `none` where one of them is not between two
characters of the text. -/
def slice? (cs : List Char) (start stop : Nat) : Option (List Char) := do
  takeBytes (stop - start) (← dropBytes start cs)

/-! ### Building and reading -/

/-- The byte offsets right after each line feed of a text that itself starts at `offset`. -/
def startsAfter (offset : Nat) : List Char → List Nat
  | [] => []
  | c :: cs =>
    if c = '\n' then (offset + 1) :: startsAfter (offset + 1) cs
    else startsAfter (offset + c.utf8Size) cs

/-- The lines of a text. -/
def ofText (text : String) : SourceLines where
  text := text
  starts := 0 :: startsAfter 0 text.toList

/-- The number of lines. In 32 bits it would stop at 2³² - 1, and be too small for a buffer of
2³² - 1 line feeds or more. -/
def count (s : SourceLines) : Nat :=
  s.starts.length

/-- The byte offset at which a line ends: before the line feed that ends it, or at the end
of the text. -/
def stop (s : SourceLines) (line : Nat) : Nat :=
  match s.starts[line + 1]? with
  | some next => next - 1
  | none => s.text.utf8ByteSize

/-- The characters of a line, counted from 0, without what ends it. -/
def lineChars? (s : SourceLines) (line : Nat) : Option (List Char) := do
  let start ← s.starts[line]?
  (slice? s.text.toList start (s.stop line)).map Text.dropReturn

/-- The text of a line, counted from 0, without what ends it. -/
def line? (s : SourceLines) (line : Nat) : Option String :=
  (s.lineChars? line).map String.ofList

/-- The number of characters of a line. In 32 bits it would stop at 2³² - 1, and be too small for
a line of 2³² characters or more. -/
def lineLength? (s : SourceLines) (line : Nat) : Option Nat :=
  (s.lineChars? line).map List.length

end SourceLines

end LintHost
