import LintHost.Diagnostic

/-!
# Diagnostics as a JSON array

The machine-readable form of a list of diagnostics is one JSON array with an object for each
of them. It is written as the diagnostics come: `JsonArray.begin` opens the array, every
`JsonArray.emit` adds an object and what has to stand before it, and `JsonArray.finish`
closes the array. What the writer remembers between two calls is whether an object has been
written.

The objects have their members in a fixed order, and texts are escaped by `JsonArray.escape`.
-/

namespace LintHost

namespace JsonArray

/-! ### Escaping -/

/-- A digit below sixteen, in lower case. -/
def hexDigit (n : Nat) : Char :=
  Nat.digitChar n

/-- The four hexadecimal digits of a number below 2¹⁶. -/
def hex4 (n : Nat) : List Char :=
  [hexDigit (n / 4096 % 16), hexDigit (n / 256 % 16), hexDigit (n / 16 % 16), hexDigit (n % 16)]

/-- A control character: one below the blank, the delete character, or one of the second
control block. -/
def isControl (c : Char) : Bool :=
  c.toNat < 0x20 || (0x7f ≤ c.toNat && c.toNat < 0xa0)

/-- The written form of one character of a text. -/
def escapeChar (c : Char) : List Char :=
  if c = '"' then ['\\', '"']
  else if c = '\\' then ['\\', '\\']
  else if c = '\n' then ['\\', 'n']
  else if c = '\r' then ['\\', 'r']
  else if c = '\t' then ['\\', 't']
  else if isControl c then '\\' :: 'u' :: hex4 c.toNat
  else [c]

/-- The text with everything escaped that may not stand between quotes as it is. -/
def escape (text : String) : String :=
  String.ofList (text.toList.flatMap escapeChar)

/-! ### Objects -/

/-- A text between quotes. -/
def quoted (text : String) : String :=
  "\"" ++ escape text ++ "\""

/-- A value that may be missing. -/
def orNull {α : Type} (render : α → String) : Option α → String
  | some value => render value
  | none => "null"

/-- A position as a pair. -/
def pair (p : Position) : String :=
  "[" ++ Nat.repr p.line ++ ", " ++ Nat.repr p.character ++ "]"

/-- A member of an object on a line of its own. -/
def member (key value : String) : String :=
  "    \"" ++ key ++ "\": " ++ value

/-- The members of a diagnostic's object, in order. -/
def members (d : Diagnostic) : List String :=
  [member "severity" ("\"" ++ d.severity.word ++ "\""),
   member "file" (quoted d.file.text),
   member "line" (Nat.repr d.line),
   member "column" (orNull Nat.repr d.column),
   member "range" ("\x7b\"start\": " ++ pair d.range.start ++ ", \"end\": " ++
     pair d.range.stop ++ "\x7d"),
   member "description" (orNull quoted d.description),
   member "message" (quoted d.message)]

/-- The object of a diagnostic. -/
def object (d : Diagnostic) : String :=
  "  \x7b\n" ++ ",\n".intercalate (members d) ++ "\n  \x7d"

end JsonArray

/-! ### The writer -/

/-- A JSON array that is being written. -/
structure JsonArray where
  /-- Whether the array has no object yet. -/
  isEmpty : Bool := true
  /-- The text written so far. -/
  written : String := ""
deriving DecidableEq, Inhabited

namespace JsonArray

/-- More text. -/
def write (w : JsonArray) (text : String) : JsonArray :=
  { w with written := w.written ++ text }

/-- Opens the array. -/
def begin (w : JsonArray) : JsonArray :=
  w.write "["

/-- Adds a diagnostic. -/
def emit (w : JsonArray) (d : Diagnostic) : JsonArray :=
  { (w.write ((if w.isEmpty then "\n" else ",\n") ++ object d)) with isEmpty := false }

/-- Adds diagnostics one after the other. -/
def emitAll (w : JsonArray) (ds : List Diagnostic) : JsonArray :=
  ds.foldl emit w

/-- Closes the array. -/
def finish (w : JsonArray) : JsonArray :=
  w.write (if w.isEmpty then "]\n" else "\n]\n")

end JsonArray

end LintHost
