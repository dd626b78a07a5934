import LintHost.Proofs.Sequence.Entries
import LintHost.Server.Documents

/-!
# What operations do to the open documents

All that a lint compares of a document is its text and its version, so the store is seen here
through `LintHost.DocumentStore.snapshot?`: each operation has one equation, which says what the
snapshots of all URIs are after it. An operation on one URI leaves those of the others alone.

The store as a whole has each URI once, and only those of documents that are linted, as long as
nothing else is opened (`LintHost.DocumentStore.Kept`).
-/

namespace LintHost.DocumentStore

variable (store : DocumentStore) (uri other : Uri)

/-! ### Entries -/

theorem get?_erase :
    (store.erase uri).get? other = if other = uri then none else store.get? other :=
  lookup_filter_ne uri other store.documents

theorem get?_insert (document : OpenDocument) :
    (store.insert uri document).get? other =
      if other = uri then some document else store.get? other := by
  rw [insert, get?, lookup_cons_eq, lookup_filter_ne]
  by_cases hother : other = uri
  · rw [if_pos hother, if_pos hother]
  · rw [if_neg hother, if_neg hother, if_neg hother]
    rfl

/-! ### Snapshots -/

theorem snapshot?_eq_some_iff {store : DocumentStore} {uri : Uri} {snapshot : Snapshot} :
    store.snapshot? uri = some snapshot ↔ ∃ document, store.get? uri = some document ∧
      document.text = snapshot.text ∧ document.version = snapshot.version := by
  rw [snapshot?, Option.map_eq_some_iff]
  constructor
  · rintro ⟨document, hget, rfl⟩
    exact ⟨document, hget, rfl, rfl⟩
  · rintro ⟨document, hget, htext, hversion⟩
    exact ⟨document, hget, by rw [htext, hversion]⟩

theorem snapshot?_eq_none_iff {store : DocumentStore} {uri : Uri} :
    store.snapshot? uri = none ↔ store.get? uri = none :=
  Option.map_eq_none_iff

theorem isOpen_eq_isSome_snapshot? : store.isOpen uri = (store.snapshot? uri).isSome := by
  rw [isOpen, snapshot?, Option.isSome_map]

theorem exists_snapshot?_of_isOpen {store : DocumentStore} {uri : Uri}
    (h : store.isOpen uri = true) : ∃ snapshot, store.snapshot? uri = some snapshot :=
  Option.isSome_iff_exists.mp ((isOpen_eq_isSome_snapshot? store uri).symm.trans h)

/-- A document is unchanged exactly if it has the snapshot of the earlier moment. -/
theorem isUnchangedSince_iff (earlier : Snapshot) :
    store.isUnchangedSince uri earlier = true ↔ store.snapshot? uri = some earlier :=
  beq_iff_eq

theorem snapshot?_insert (document : OpenDocument) :
    (store.insert uri document).snapshot? other =
      if other = uri then some ⟨document.text, document.version⟩ else store.snapshot? other := by
  rw [snapshot?, get?_insert]
  split <;> rfl

theorem snapshot?_openAt (text : String) (version : Int) (savedText : Option String) :
    (store.openAt uri text version savedText).snapshot? other =
      if other = uri then some ⟨text, version⟩ else store.snapshot? other :=
  snapshot?_insert store uri other _

/-- A change gives an open document another text and version, and does nothing to one that is
not open. -/
theorem snapshot?_changeAt (text : String) (version : Int) :
    (store.changeAt uri text version).2.snapshot? other =
      if other = uri ∧ store.isOpen uri = true then some ⟨text, version⟩
      else store.snapshot? other := by
  rw [changeAt, isOpen]
  cases store.get? uri with
  | none => simp
  | some document => simp [snapshot?_insert]

/-- A save gives an open document the text that it brings, if it brings one, and leaves its
version. -/
theorem snapshot?_saveAt (text : Option String) :
    (store.saveAt uri text).2.snapshot? other =
      if other = uri then
        (store.snapshot? uri).map fun old => { old with text := text.getD old.text }
      else store.snapshot? other := by
  rw [saveAt]
  cases hget : store.get? uri with
  | none =>
    by_cases hother : other = uri
    · rw [if_pos hother, hother, snapshot?_eq_none_iff.mpr hget, Option.map_none]
    · rw [if_neg hother]
  | some document =>
    simp only [snapshot?_insert]
    by_cases hother : other = uri
    · rw [if_pos hother, if_pos hother, snapshot?, hget]
      rfl
    · rw [if_neg hother, if_neg hother]

theorem snapshot?_closeAt :
    (store.closeAt uri).2.snapshot? other =
      if other = uri then none else store.snapshot? other := by
  rw [closeAt, snapshot?, get?_erase]
  split <;> rfl

/-! ### Whether the document was open -/

theorem fst_changeAt (text : String) (version : Int) :
    (store.changeAt uri text version).1 = store.isOpen uri := by
  rw [changeAt, isOpen]
  cases store.get? uri <;> rfl

theorem fst_saveAt (text : Option String) : (store.saveAt uri text).1 = store.isOpen uri := by
  rw [saveAt, isOpen]
  cases store.get? uri <;> rfl

/-! ### What a lint reads -/

/-- A lint of an open document reads the text that the store has. -/
theorem text_view {store : DocumentStore} {uri : Uri} {snapshot : Snapshot}
    (h : store.snapshot? uri = some snapshot) (path : Path) :
    (store.view uri path).text = snapshot.text := by
  obtain ⟨document, hget, htext, -⟩ := snapshot?_eq_some_iff.mp h
  rw [view, hget]
  exact htext

theorem isAlive_view {store : DocumentStore} {uri : Uri} {snapshot : Snapshot}
    (h : store.snapshot? uri = some snapshot) (path : Path) :
    (store.view uri path).isAlive = true := by
  rw [view, isOpen_eq_isSome_snapshot?, h]
  rfl

/-! ### What is open -/

theorem isOpen_iff_mem_uris {store : DocumentStore} {uri : Uri} :
    store.isOpen uri = true ↔ uri ∈ store.uris := by
  rw [isOpen, get?, List.lookup_isSome_iff, uris, List.mem_map]
  exact exists_congr fun _ => and_congr_right fun _ => beq_iff_eq.trans eq_comm

theorem uris_erase : (store.erase uri).uris = store.uris.filter (· ≠ uri) := by
  rw [uris, uris, List.filter_map]
  rfl

theorem uris_insert (document : OpenDocument) :
    (store.insert uri document).uris = uri :: store.uris.filter (· ≠ uri) :=
  congrArg (uri :: ·) (uris_erase store uri)

/-- **A store as the server keeps it**: each URI is there once, and is that of a document that is
linted. -/
structure Kept (store : DocumentStore) : Prop where
  nodup : store.uris.Nodup
  source : ∀ uri ∈ store.uris, ∃ path, uri.sourcePath? = some path

variable {store uri}

theorem Kept.insert (h : store.Kept) (hpath : ∃ path, uri.sourcePath? = some path)
    (document : OpenDocument) : (store.insert uri document).Kept where
  nodup := by
    rw [uris_insert, List.nodup_cons]
    exact ⟨by simp, h.nodup.filter _⟩
  source := by
    rw [uris_insert, List.forall_mem_cons]
    exact ⟨hpath, fun other hother => h.source other (List.mem_filter.mp hother).1⟩

theorem Kept.closeAt (h : store.Kept) (uri : Uri) : (store.closeAt uri).2.Kept where
  nodup := by
    rw [DocumentStore.closeAt, uris_erase]
    exact h.nodup.filter _
  source := by
    rw [DocumentStore.closeAt, uris_erase]
    exact fun other hother => h.source other (List.mem_filter.mp hother).1

/-- A document that is open is one that is linted. -/
theorem Kept.exists_path (h : store.Kept) {document : OpenDocument}
    (hget : store.get? uri = some document) : ∃ path, uri.sourcePath? = some path := by
  refine h.source uri (isOpen_iff_mem_uris.mp ?_)
  rw [isOpen, hget]
  rfl

theorem Kept.changeAt (h : store.Kept) (uri : Uri) (text : String) (version : Int) :
    (store.changeAt uri text version).2.Kept := by
  rw [DocumentStore.changeAt]
  split
  · next document hget => exact h.insert (h.exists_path hget) _
  · exact h

theorem Kept.saveAt (h : store.Kept) (uri : Uri) (text : Option String) :
    (store.saveAt uri text).2.Kept := by
  rw [DocumentStore.saveAt]
  split
  · next document hget => exact h.insert (h.exists_path hget) _
  · exact h

end LintHost.DocumentStore
