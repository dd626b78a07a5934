import LintHost.Path

/-!
# Documents

A lint reads a document twice, when it starts and when the checker has finished, and what it
reads each time is a `DocumentView`. A `Buffer` is a document that does not change.
-/

namespace LintHost

/-- A document at one moment. -/
structure DocumentView where
  /-- Where it is on disk; a document without a place is never linted. -/
  path : Option Path
  text : String
  /-- Whether the text differs from the file on disk. -/
  isModified : Bool
  /-- Whether the document is still open. -/
  isAlive : Bool
deriving DecidableEq, Inhabited

/-- A document that does not change. -/
structure Buffer where
  path : Option Path
  text : String
  /-- The text on disk, if there is one. -/
  savedText : Option String
deriving DecidableEq, Inhabited

namespace Buffer

/-- A buffer with the text of the file on disk. -/
def saved (path : Path) (text : String) : Buffer :=
  ⟨some path, text, some text⟩

/-- A buffer that may differ from the file on disk, if there is one. -/
def edited (path : Path) (text : String) (savedText : Option String) : Buffer :=
  ⟨some path, text, savedText⟩

/-- A buffer that has never been saved. -/
def untitled (text : String) : Buffer :=
  ⟨none, text, none⟩

/-- What a lint reads of the buffer, at any moment. -/
def view (buffer : Buffer) : DocumentView where
  path := buffer.path
  text := buffer.text
  isModified := buffer.savedText ≠ some buffer.text
  isAlive := true

end Buffer

end LintHost
