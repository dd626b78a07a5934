import LintHost.Document
import LintHost.Uri

/-!
# Open documents

The documents that an editor has open, by their URIs. Each has its text, the version that the
editor gave the text, and the text on disk as far as it is known. A save tells what is on
disk, and perhaps brings a text that the editor had not sent; it changes no version.

`DocumentStore.get?` is the view through which all operations are described: an operation on
one URI changes that entry, and `changeAt`, `saveAt` and `closeAt` change nothing where there
is none.
-/

namespace LintHost

/-- What is kept of an open document. -/
structure OpenDocument where
  text : String
  version : Int
  /-- The text on disk when it was opened or last saved. -/
  savedText : Option String
deriving DecidableEq, Inhabited

/-- The text and the version of a document at one moment. -/
structure Snapshot where
  text : String
  version : Int
deriving DecidableEq, Inhabited

/-- The open documents, each URI at most once. -/
structure DocumentStore where
  documents : List (Uri × OpenDocument) := []
deriving DecidableEq, Inhabited

namespace DocumentStore

/-- The open document of a URI. -/
def get? (store : DocumentStore) (uri : Uri) : Option OpenDocument :=
  store.documents.lookup uri

/-- Whether a document is open. -/
def isOpen (store : DocumentStore) (uri : Uri) : Bool :=
  (store.get? uri).isSome

/-- The URIs of the open documents. -/
def uris (store : DocumentStore) : List Uri :=
  store.documents.map (·.1)

/-- The store with a document in place of what was open at its URI. -/
def insert (store : DocumentStore) (uri : Uri) (document : OpenDocument) : DocumentStore :=
  ⟨(uri, document) :: store.documents.filter (·.1 ≠ uri)⟩

/-- The store without the document of a URI. -/
def erase (store : DocumentStore) (uri : Uri) : DocumentStore :=
  ⟨store.documents.filter (·.1 ≠ uri)⟩

/-! ### What the editor does -/

/-- Opens a document. -/
def openAt (store : DocumentStore) (uri : Uri) (text : String) (version : Int)
    (savedText : Option String) : DocumentStore :=
  store.insert uri { text, version, savedText }

/-- Gives an open document another text and version; tells whether it was open. -/
def changeAt (store : DocumentStore) (uri : Uri) (text : String) (version : Int) :
    Bool × DocumentStore :=
  match store.get? uri with
  | some document => (true, store.insert uri { document with text, version })
  | none => (false, store)

/-- Records that an open document was saved, with the saved text if the editor sends it; tells
whether it was open. -/
def saveAt (store : DocumentStore) (uri : Uri) (text : Option String) : Bool × DocumentStore :=
  match store.get? uri with
  | some document =>
    let text := text.getD document.text
    (true, store.insert uri { document with text, savedText := some text })
  | none => (false, store)

/-- Forgets a document; tells whether it was open. -/
def closeAt (store : DocumentStore) (uri : Uri) : Bool × DocumentStore :=
  (store.isOpen uri, store.erase uri)

/-! ### What a lint reads -/

/-- The text and the version of an open document. -/
def snapshot? (store : DocumentStore) (uri : Uri) : Option Snapshot :=
  (store.get? uri).map fun document => ⟨document.text, document.version⟩

/-- Whether a document is open with exactly the text and version of an earlier moment. -/
def isUnchangedSince (store : DocumentStore) (uri : Uri) (earlier : Snapshot) : Bool :=
  store.snapshot? uri == some earlier

/-- The document at a URI as a lint reads it; one that is not open is empty and dead. -/
def view (store : DocumentStore) (uri : Uri) (path : Path) : DocumentView where
  path := some path
  text := ((store.get? uri).map (·.text)).getD ""
  isModified :=
    match store.get? uri with
    | some document => document.savedText ≠ some document.text
    | none => false
  isAlive := store.isOpen uri

end DocumentStore

end LintHost
