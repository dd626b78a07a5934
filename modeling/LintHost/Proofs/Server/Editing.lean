import LintHost.Proofs.Sequence.Lasting
import LintHost.Proofs.Server.Documents
import Mathlib.Data.List.Induction

/-!
# The open documents follow the editor

An editor opens, changes, saves and closes documents, in any order and any number, and it may well
name a document that is not open. What is then kept of a document can be told from these operations
alone, without a look at any state in between
(`LintHost.DocumentStore.run_follows_operations`):

| what is kept | what it is |
|---|---|
| whether it is open | an opening that no closing has undone |
| its version | that of the last opening or change |
| its text | that of the last opening, of the last change or of the last save that brought one |
| the text on disk | what the opening brought or, since a save, the text right after it |

An operation on one URI is a function of what is kept of that URI, `Operation.onEntry`, and leaves
all others alone (`LintHost.DocumentStore.get?_step`). So the operations on other documents have no
part in what becomes of one (`LintHost.DocumentStore.get?_run`), and the rest is followed from the
end of the history, one operation at a time.
-/

namespace LintHost.DocumentStore

/-! ### Operations -/

/-- What an editor does to the open documents. -/
inductive Operation where
  | opened (uri : Uri) (text : String) (version : Int) (savedText : Option String)
  | changed (uri : Uri) (text : String) (version : Int)
  | saved (uri : Uri) (text : Option String)
  | closed (uri : Uri)
deriving DecidableEq, Inhabited

namespace Operation

/-- The document that an operation is about. -/
def uri : Operation → Uri
  | opened uri _ _ _ => uri
  | changed uri _ _ => uri
  | saved uri _ => uri
  | closed uri => uri

def isOpening : Operation → Bool
  | opened .. => true
  | _ => false

/-- What an operation makes of what is kept of its document. -/
def onEntry (entry : Option OpenDocument) : Operation → Option OpenDocument
  | opened _ text version savedText => some { text, version, savedText }
  | changed _ text version => entry.map fun document => { document with text, version }
  | saved _ text => entry.map fun document =>
      { document with
        text := text.getD document.text, savedText := some (text.getD document.text) }
  | closed _ => none

end Operation

/-- What an operation answers, and the documents after it. An opening answers nothing, and the
others whether their document was open. -/
def perform (store : DocumentStore) : Operation → Option Bool × DocumentStore
  | .opened uri text version savedText => (none, store.openAt uri text version savedText)
  | .changed uri text version => (store.changeAt uri text version).map some id
  | .saved uri text => (store.saveAt uri text).map some id
  | .closed uri => (store.closeAt uri).map some id

/-- The answer to an operation. -/
def answer (store : DocumentStore) (op : Operation) : Option Bool :=
  (store.perform op).1

/-- The documents after an operation. -/
def step (store : DocumentStore) (op : Operation) : DocumentStore :=
  (store.perform op).2

/-- The documents after some operations. -/
def run (store : DocumentStore) (ops : List Operation) : DocumentStore :=
  ops.foldl step store

/-- The answers to the operations on a document in the course of some operations. -/
def answers (uri : Uri) : DocumentStore → List Operation → List (Option Bool)
  | _, [] => []
  | store, op :: ops =>
    (if op.uri = uri then [store.answer op] else []) ++ (store.step op).answers uri ops

theorem run_concat (store : DocumentStore) (ops : List Operation) (op : Operation) :
    store.run (ops ++ [op]) = (store.run ops).step op := by
  rw [run, List.foldl_append]
  rfl

/-! ### One operation -/

variable (store : DocumentStore) (uri : Uri)

/-- **An operation** is a function of what is kept of its document, and keeps the others. -/
theorem get?_step (op : Operation) :
    (store.step op).get? uri =
      if op.uri = uri then op.onEntry (store.get? uri) else store.get? uri := by
  by_cases hop : op.uri = uri
  · -- Where the store asks first whether the document is open, both sides do.
    subst hop
    rw [if_pos rfl]
    cases op with
    | opened about text version savedText => exact (get?_insert ..).trans (if_pos rfl)
    | changed about text version =>
      simp only [step, perform, Operation.uri, Operation.onEntry, Prod.map_snd, id, changeAt]
      cases hget : store.get? about with
      | none => exact hget
      | some document => exact (get?_insert ..).trans (if_pos rfl)
    | saved about text =>
      simp only [step, perform, Operation.uri, Operation.onEntry, Prod.map_snd, id, saveAt]
      cases hget : store.get? about with
      | none => exact hget
      | some document => exact (get?_insert ..).trans (if_pos rfl)
    | closed about => exact (get?_erase ..).trans (if_pos rfl)
  · rw [if_neg hop]
    have hother : uri ≠ op.uri := Ne.symm hop
    cases op with
    | opened about text version savedText => exact (get?_insert ..).trans (if_neg hother)
    | changed about text version =>
      simp only [step, perform, Prod.map_snd, id, changeAt]
      cases store.get? about with
      | none => rfl
      | some document => exact (get?_insert ..).trans (if_neg hother)
    | saved about text =>
      simp only [step, perform, Prod.map_snd, id, saveAt]
      cases store.get? about with
      | none => rfl
      | some document => exact (get?_insert ..).trans (if_neg hother)
    | closed about => exact (get?_erase ..).trans (if_neg hother)

/-- All operations but openings answer whether their document was open. -/
theorem answer_eq (op : Operation) :
    store.answer op = if op.isOpening then none else some (store.isOpen op.uri) := by
  cases op with
  | opened about text version savedText => rfl
  | changed about text version => exact congrArg some (fst_changeAt store about text version)
  | saved about text => exact congrArg some (fst_saveAt store about text)
  | closed about => rfl

/-- **An operation on a document that is not open** leaves the store as it is. -/
theorem step_of_answer_eq_false {op : Operation} (h : store.answer op = some false) :
    store.step op = store := by
  rw [answer_eq] at h
  obtain ⟨hopening, hclosed⟩ : op.isOpening = false ∧ store.isOpen op.uri = false := by
    split at h <;> simp_all
  have hnone : store.get? op.uri = none := by simpa [isOpen] using hclosed
  cases op with
  | opened about text version savedText => simp [Operation.isOpening] at hopening
  | changed about text version =>
    have habout : store.get? about = none := hnone
    simp only [step, perform, changeAt, habout]
    rfl
  | saved about text =>
    have habout : store.get? about = none := hnone
    simp only [step, perform, saveAt, habout]
    rfl
  | closed about =>
    have hkept : store.documents.filter (·.1 ≠ about) = store.documents := by
      rw [List.filter_eq_self]
      intro entry hentry
      have hne := List.lookup_eq_none_iff.mp hnone entry hentry
      simp only [Operation.uri, bne_iff_ne] at hne
      simpa using Ne.symm hne
    exact congrArg DocumentStore.mk hkept

/-! ### The operations on one document -/

/-- **What becomes of a document** is what the operations on it make of it, one after the other. -/
theorem get?_run (ops : List Operation) :
    (store.run ops).get? uri =
      (ops.filter fun op => op.uri = uri).foldl Operation.onEntry (store.get? uri) := by
  induction ops generalizing store with
  | nil => rfl
  | cons op ops ih =>
    rw [run, List.foldl_cons, ← run, ih, get?_step]
    by_cases hop : op.uri = uri
    · rw [if_pos hop, List.filter_cons_of_pos (by simpa using hop), List.foldl_cons]
    · rw [if_neg hop, List.filter_cons_of_neg (by simpa using hop)]

/-- Two stores that agree about a document give the same answers about it, whatever else is done
in one of them. -/
theorem answers_filter {store other : DocumentStore} (h : store.get? uri = other.get? uri)
    (ops : List Operation) :
    store.answers uri (ops.filter fun op => op.uri = uri) = other.answers uri ops := by
  induction ops generalizing store other with
  | nil => rfl
  | cons op ops ih =>
    by_cases hop : op.uri = uri
    · rw [List.filter_cons_of_pos (by simpa using hop), answers, answers, if_pos hop, if_pos hop,
        answer_eq, answer_eq, isOpen, isOpen, hop, h]
      refine congrArg _ (ih ?_)
      rw [get?_step, get?_step, h]
    · rw [List.filter_cons_of_neg (by simpa using hop), answers, if_neg hop, List.nil_append]
      refine ih ?_
      rw [get?_step, if_neg hop, h]

/-! ### What the operations say of a document -/

namespace Operation

variable (uri : Uri)

/-- The version that an operation gives to a document. -/
def version? : Operation → Option Int
  | opened about _ version _ => if about = uri then some version else none
  | changed about _ version => if about = uri then some version else none
  | _ => none

/-- The text that an operation gives to a document. -/
def text? : Operation → Option String
  | opened about text _ _ => if about = uri then some text else none
  | changed about text _ => if about = uri then some text else none
  | saved about text => if about = uri then text else none
  | closed _ => none

/-- Whether an operation says what a document is on disk. -/
def tellsDisk : Operation → Bool
  | opened about _ _ _ => about = uri
  | saved about _ => about = uri
  | _ => false

variable {uri} {op : Operation} (h : op.uri ≠ uri)
include h

theorem version?_of_ne : op.version? uri = none := by
  cases op <;> simp_all [version?, Operation.uri]

theorem text?_of_ne : op.text? uri = none := by
  cases op <;> simp_all [text?, Operation.uri]

theorem tellsDisk_of_ne : op.tellsDisk uri = false := by
  cases op <;> simp_all [tellsDisk, Operation.uri]

end Operation

/-- **The text that a document has on disk**, by the last operation that says it: an opening brings
it along, and a save makes it the text that the document has from then on. -/
inductive OnDisk (uri : Uri) (ops : List Operation) : Option String → Prop
  | opened {before : List Operation} {text : String} {version : Int} {savedText : Option String}
      (hlast : Lasts (fun op => op.tellsDisk uri = true) ops before
        (.opened uri text version savedText)) : OnDisk uri ops savedText
  | saved {before : List Operation} {brought : Option String} {text : String}
      (hlast : Lasts (fun op => op.tellsDisk uri = true) ops before (.saved uri brought))
      (htext : latest? (Operation.text? uri) (before ++ [.saved uri brought]) = some text) :
      OnDisk uri ops (some text)

/-- **A document that is as the operations on it say.** -/
structure Follows (uri : Uri) (ops : List Operation) (document : OpenDocument) : Prop where
  version : latest? (Operation.version? uri) ops = some document.version
  text : latest? (Operation.text? uri) ops = some document.text
  savedText : OnDisk uri ops document.savedText

variable {uri} {ops : List Operation} {op : Operation} {document : OpenDocument}

theorem OnDisk.concat {savedText : Option String} (h : OnDisk uri ops savedText)
    (hop : op.tellsDisk uri = false) : OnDisk uri (ops ++ [op]) savedText := by
  have hkeeps : ¬op.tellsDisk uri = true := by simp [hop]
  cases h with
  | opened hlast => exact .opened (hlast.concat hkeeps)
  | saved hlast htext => exact .saved (hlast.concat hkeeps) htext

/-- Operations on other documents say nothing. -/
theorem Follows.concat_of_ne (h : Follows uri ops document) (hop : op.uri ≠ uri) :
    Follows uri (ops ++ [op]) document where
  version := by rw [latest?_concat_of_none (Operation.version?_of_ne hop), h.version]
  text := by rw [latest?_concat_of_none (Operation.text?_of_ne hop), h.text]
  savedText := h.savedText.concat (Operation.tellsDisk_of_ne hop)

theorem follows_opened (text : String) (version : Int) (savedText : Option String) :
    Follows uri (ops ++ [.opened uri text version savedText]) ⟨text, version, savedText⟩ where
  version := by rw [latest?_concat, Operation.version?, if_pos rfl, Option.some_or]
  text := by rw [latest?_concat, Operation.text?, if_pos rfl, Option.some_or]
  savedText := .opened (lasts_concat_self _ ops _)

theorem Follows.changed (h : Follows uri ops document) (text : String) (version : Int) :
    Follows uri (ops ++ [.changed uri text version]) { document with text, version } where
  version := by rw [latest?_concat, Operation.version?, if_pos rfl, Option.some_or]
  text := by rw [latest?_concat, Operation.text?, if_pos rfl, Option.some_or]
  savedText := h.savedText.concat rfl

theorem Follows.saved (h : Follows uri ops document) (brought : Option String) :
    Follows uri (ops ++ [.saved uri brought])
      { document with
        text := brought.getD document.text, savedText := some (brought.getD document.text) } := by
  have htext : latest? (Operation.text? uri) (ops ++ [.saved uri brought]) =
      some (brought.getD document.text) := by
    rw [latest?_concat, h.text, Operation.text?, if_pos rfl]
    cases brought <;> rfl
  refine ⟨?_, htext, .saved (lasts_concat_self _ ops _) htext⟩
  rw [latest?_concat_of_none rfl, h.version]

/-! ### Histories -/

/-- **What is kept of an open document** is what the operations on it say. -/
theorem follows_of_get?_run (h : (run {} ops).get? uri = some document) :
    Follows uri ops document := by
  induction ops using List.reverseRecOn generalizing document with
  | nil => simp [run, get?] at h
  | append_singleton ops op ih =>
    rw [run_concat, get?_step] at h
    by_cases hop : op.uri = uri
    · subst hop
      rw [if_pos rfl] at h
      cases op with
      | opened about text version savedText =>
        obtain rfl := Option.some.inj h
        exact follows_opened text version savedText
      | changed about text version =>
        obtain ⟨old, hold, rfl⟩ := Option.map_eq_some_iff.mp h
        exact (ih hold).changed text version
      | saved about brought =>
        obtain ⟨old, hold, rfl⟩ := Option.map_eq_some_iff.mp h
        exact (ih hold).saved brought
      | closed about => simp [Operation.onEntry] at h
    · rw [if_neg hop] at h
      exact (ih h).concat_of_ne hop

/-- **A document is open** if it has been opened and not closed since. -/
theorem isOpen_run_iff (uri : Uri) (ops : List Operation) :
    (run {} ops).isOpen uri = true ↔ ∃ before text version savedText,
      Lasts (· = .closed uri) ops before (.opened uri text version savedText) := by
  rw [isOpen, Option.isSome_iff_ne_none]
  induction ops using List.reverseRecOn with
  | nil => simp [run, get?, not_lasts_nil]
  | append_singleton ops op ih =>
    rw [run_concat, get?_step]
    simp only [lasts_concat_iff, exists_or, exists_and_right, ← ih]
    by_cases hop : op.uri = uri
    · subst hop
      rw [if_pos rfl]
      cases op with
      | opened about text version savedText => simp [Operation.onEntry, Operation.uri]
      | changed about text version => simp [Operation.onEntry, Operation.uri]
      | saved about brought => simp [Operation.onEntry, Operation.uri]
      | closed about => simp [Operation.onEntry, Operation.uri]
    · have hclosed : op ≠ .closed uri := by
        rintro rfl
        exact hop rfl
      have hopened : ∀ text version savedText, .opened uri text version savedText ≠ op := by
        rintro text version savedText rfl
        exact hop rfl
      simp [if_neg hop, hclosed, hopened]

/-- A document counts as modified if its text is not the one on disk, or nothing is known to be
there. -/
theorem isModified_view_iff {store : DocumentStore} (h : store.get? uri = some document)
    (path : Path) :
    (store.view uri path).isModified = true ↔
      document.savedText = none ∨ ∃ saved, document.savedText = some saved ∧
        saved ≠ document.text := by
  simp only [view, h]
  cases document.savedText <;> simp

/-- **The open documents follow the editor**, after every sequence of operations and document by
document. A document is open exactly if an opening of it has not been undone by a closing. Then its
version and its text are those of the last operations that gave it any, of which the opening is
one; the text on disk is that of the last opening or save; and the document is modified if it
differs from that. All operations but openings answer whether their document was open, and where it
was not the whole store is as before. What is kept of a document and what is answered about it
would be the same without the operations on others. -/
theorem run_follows_operations (ops : List Operation) (uri : Uri) :
    ((run {} ops).isOpen uri = true ↔ ∃ before text version savedText,
      Lasts (· = .closed uri) ops before (.opened uri text version savedText)) ∧
    (∀ document, (run {} ops).get? uri = some document →
      Follows uri ops document ∧
      ∀ path, ((run {} ops).view uri path).isModified = true ↔
        document.savedText = none ∨ ∃ saved, document.savedText = some saved ∧
          saved ≠ document.text) ∧
    (∀ op : Operation,
      (run {} ops).answer op =
        (if op.isOpening then none else some ((run {} ops).isOpen op.uri)) ∧
      ((run {} ops).answer op = some false → (run {} ops).step op = run {} ops)) ∧
    (run {} (ops.filter fun op => op.uri = uri)).get? uri = (run {} ops).get? uri ∧
    answers uri {} (ops.filter fun op => op.uri = uri) = answers uri {} ops := by
  refine ⟨isOpen_run_iff uri ops, fun document h => ⟨follows_of_get?_run h, ?_⟩,
    fun op => ⟨answer_eq _ op, step_of_answer_eq_false _⟩, ?_, answers_filter uri rfl ops⟩
  · exact isModified_view_iff h
  · rw [get?_run, get?_run, List.filter_filter]
    simp only [Bool.and_self]

/-- The document is changed before it is open, which is lost; it is changed again after a save that
brought no text, and then the text on disk is the one before. -/
theorem run_follows_operations_changed_after_save :
    let uri : Uri := ⟨"file", some ⟨[], .empty, none⟩, "/w/a.py", none, none⟩
    let other : Uri := ⟨"file", some ⟨[], .empty, none⟩, "/w/b.py", none, none⟩
    let ops : List Operation :=
      [.changed uri "early" 7, .opened uri "one" 1 (some "one"), .changed uri "two" 2,
        .closed other, .saved uri none, .changed uri "three" 3]
    let document : OpenDocument := ⟨"three", 3, some "two"⟩
    (run {} ops).get? uri = some document ∧ Follows uri ops document ∧
      ((run {} ops).view uri ⟨"/w/a.py"⟩).isModified = true ∧
      (∃ before text version savedText,
        Lasts (· = .closed uri) ops before (.opened uri text version savedText)) ∧
      (run {} ops).answer (.saved other none) = some false ∧
      (run {} ops).step (.saved other none) = run {} ops ∧
      answers uri {} ops = [some false, none, some true, some true, some true] := by
  intro uri other ops document
  have hget : (run {} ops).get? uri = some document := by decide +kernel
  have hclosed : (run {} ops).answer (.saved other none) = some false := by decide +kernel
  obtain ⟨hopen, hkept, htold, -, hanswers⟩ := run_follows_operations ops uri
  obtain ⟨hfollows, hmodified⟩ := hkept document hget
  refine ⟨hget, hfollows, (hmodified _).mpr (Or.inr ⟨"two", rfl, by decide⟩),
    hopen.mp (by decide +kernel), hclosed, (htold _).2 hclosed, ?_⟩
  rw [← hanswers]
  decide +kernel

end LintHost.DocumentStore
