import LintHost.Proofs.Server.Interleaving
import Mathlib.Data.List.Induction

/-!
# A document that is closed shows nothing

A lint outlives the document that it was started for: the client may close the document before the
task has noted it, while the checker runs, or when the findings are there already. Nothing of this
may leave diagnostics on a document that is not open, since nobody would ever take them away.

What keeps it from happening is that a task publishes for an open document only, and that closing
takes away what was shown, both in one step. The invariant, `LintHost.Service.Tidy`, needs to know
nothing of the tasks and how far they are: it joins the documents that are open with what has been
published for them, and each event keeps it (`LintHost.Service.Tidy.step`). The client need not
keep to any order of notifications and versions.
-/

namespace LintHost

/-! ### Documents that are linted -/

namespace Uri

variable {uri : Uri} {path : Path}

/-- A document is linted if it is a local file with one of the two extensions. -/
theorem sourcePath?_eq_some_iff :
    uri.sourcePath? = some path ↔
      uri.filePath? = some path ∧ (path.extension? = some "py" ∨ path.extension? = some "pyi") := by
  rw [sourcePath?, Option.bind_eq_bind, Option.bind_eq_some_iff]
  constructor
  · rintro ⟨path', hfile, hpath⟩
    obtain ⟨extension, hextension, hsource⟩ := Option.bind_eq_some_iff.mp hpath
    split at hsource
    · next hmem =>
      obtain rfl := Option.some.inj hsource
      have hone : extension = "py" ∨ extension = "pyi" := by
        simpa [sourceExtensions] using hmem
      refine ⟨hfile, ?_⟩
      rw [hextension]
      exact hone.imp (congrArg some) (congrArg some)
    · simp at hsource
  · rintro ⟨hfile, hextension⟩
    refine ⟨path, hfile, ?_⟩
    rcases hextension with h | h <;> rw [h] <;> rfl

theorem scheme_of_filePath? (h : uri.filePath? = some path) : uri.scheme = "file" := by
  rw [filePath?] at h
  split at h
  · next hfile => exact hfile.1
  · simp at h

end Uri

namespace Service

/-- **A document that has been opened** in the course of some events, and is one that is linted. -/
structure Opened (uri : Uri) (events : List ServiceEvent) : Prop where
  path : ∃ path, uri.sourcePath? = some path
  event : ∃ text version, .notified (.opened uri text version) ∈ events

theorem Opened.append {uri : Uri} {events : List ServiceEvent} (h : Opened uri events)
    (more : List ServiceEvent) : Opened uri (events ++ more) := by
  obtain ⟨text, version, hmem⟩ := h.event
  exact ⟨h.path, text, version, List.mem_append_left more hmem⟩

/-! ### The invariant -/

/-- **Documents and publications agree**, after some events from a start. -/
structure Tidy (start : Service) (events : List ServiceEvent) : Prop where
  /-- What is open has been opened. -/
  opened : ∀ uri snapshot, (start.run events).snapshot? uri = some snapshot → Opened uri events
  /-- Nothing is published for a document that has never been opened. -/
  published : ∀ uri, publications uri (start.sent events) ≠ [] → Opened uri events
  /-- A document that is not open shows nothing. -/
  cleared : ∀ uri, (start.run events).snapshot? uri = none → ∀ shown,
    (publications uri (start.sent events)).getLast? = some shown → shown.1 = []

variable {start : Service} {events : List ServiceEvent}

theorem tidy_nil (session : LintSession) (files : FileSystem) : Tidy (fresh session files) [] :=
  ⟨by simp, by simp [sent], by simp [sent]⟩

/-- What a notification does to a document keeps it tidy. -/
theorem Tidy.handled (h : Tidy start events) (n : Notification) :
    Tidy start (events ++ [.notified n]) := by
  have heffect := fun uri => (start.run events).state.effect_handle uri n
  refine ⟨fun uri snapshot hopen => ?_, fun uri hpublished => ?_, fun uri hnone shown hlast => ?_⟩
  · rw [run_concat, snapshot?_step_notified] at hopen
    cases heffect uri with
    | kept hopened hsnapshot hquiet =>
      exact (h.opened uri snapshot (hsnapshot.symm.trans hopen)).append _
    | opened hpath hsnapshot htasks hquiet =>
      exact ⟨⟨_, hpath⟩, _, _, List.mem_append_right _ (List.mem_singleton_self _)⟩
    | changed hold hsnapshot htasks hquiet => exact (h.opened uri _ hold).append _
    | saved hold hsnapshot htasks hquiet => exact (h.opened uri _ hold).append _
    | closed hold hsnapshot hcleared => exact (h.opened uri _ hold).append _
  · rw [sent_concat, publications_append, messages_notified] at hpublished
    by_cases hbefore : publications uri (start.sent events) = []
    · rw [hbefore, List.nil_append] at hpublished
      obtain hquiet | ⟨-, old, hold⟩ := (heffect uri).publications_cases
      · exact absurd hquiet hpublished
      · exact (h.opened uri old hold).append _
    · exact (h.published uri hbefore).append _
  · rw [run_concat, snapshot?_step_notified] at hnone
    rw [sent_concat, publications_append, messages_notified] at hlast
    cases heffect uri with
    | kept hopened hsnapshot hquiet =>
      rw [hquiet, List.append_nil] at hlast
      exact h.cleared uri (hsnapshot.symm.trans hnone) shown hlast
    | opened hpath hsnapshot htasks hquiet => simp [hsnapshot] at hnone
    | changed hold hsnapshot htasks hquiet => simp [hsnapshot] at hnone
    | saved hold hsnapshot htasks hquiet => simp [hsnapshot] at hnone
    | closed hold hsnapshot hcleared =>
      rw [hcleared, List.getLast?_concat] at hlast
      exact (Option.some.inj hlast) ▸ rfl

/-- **An event keeps documents and publications tidy.** -/
theorem Tidy.step (h : Tidy start events) (e : ServiceEvent) : Tidy start (events ++ [e]) := by
  obtain ⟨n, rfl⟩ | he := e.eq_notified_or
  · exact h.handled n
  · have hreaction := (start.run events).reaction e
    -- A task publishes for a document only while it is open.
    have hmessages : ∀ uri, publications uri ((start.run events).messages e) ≠ [] →
        ∃ before, (start.run events).snapshot? uri = some before := by
      intro uri hsome
      obtain ⟨⟨diagnostics, version⟩, hmem⟩ := List.exists_mem_of_ne_nil _ hsome
      obtain ⟨task, -, before, findings, -, -, hopen, -, -⟩ :=
        hreaction.exists_compared he (mem_publications.mp hmem)
      exact ⟨before, hopen⟩
    refine ⟨fun uri snapshot hopen => ?_, fun uri hpublished => ?_,
      fun uri hnone shown hlast => ?_⟩
    · rw [snapshot?_run_concat start events he] at hopen
      exact (h.opened uri snapshot hopen).append [e]
    · rw [sent_concat, publications_append] at hpublished
      by_cases hbefore : publications uri (start.sent events) = []
      · rw [hbefore, List.nil_append] at hpublished
        obtain ⟨before, hopen⟩ := hmessages uri hpublished
        exact (h.opened uri before hopen).append [e]
      · exact (h.published uri hbefore).append [e]
    · rw [snapshot?_run_concat start events he] at hnone
      have hquiet : publications uri ((start.run events).messages e) = [] := by
        by_contra hsome
        obtain ⟨before, hopen⟩ := hmessages uri hsome
        simp [hnone] at hopen
      rw [sent_concat, publications_append, hquiet, List.append_nil] at hlast
      exact h.cleared uri hnone shown hlast

/-- A server is tidy after any events. -/
theorem tidy_run (session : LintSession) (files : FileSystem) (events : List ServiceEvent) :
    Tidy (fresh session files) events := by
  induction events using List.reverseRecOn with
  | nil => exact tidy_nil session files
  | append_singleton events e ih => exact ih.step e

/-- **A closed document shows nothing.** In every order of notifications and task steps, what was
published last for a URI that is not open, if there was anything, is the empty list; and nothing
is ever published for a URI that has not been opened as a local file with one of the extensions of
source files. -/
theorem closed_shows_nothing (session : LintSession) (files : FileSystem)
    (events : List ServiceEvent) :
    (∀ uri, ((fresh session files).run events).state.documents.isOpen uri = false → ∀ shown,
      (publications uri ((fresh session files).sent events)).getLast? = some shown →
        shown.1 = []) ∧
    ∀ uri diagnostics version,
      .publish uri diagnostics version ∈ (fresh session files).sent events →
        (∃ text given, .notified (.opened uri text given) ∈ events) ∧ uri.scheme = "file" ∧
          ∃ path, uri.filePath? = some path ∧
            (path.extension? = some "py" ∨ path.extension? = some "pyi") := by
  have htidy := tidy_run session files events
  constructor
  · intro uri hclosed
    rw [DocumentStore.isOpen_eq_isSome_snapshot?, Option.isSome_eq_false_iff] at hclosed
    exact htidy.cleared uri (Option.isNone_iff_eq_none.mp hclosed)
  · intro uri diagnostics version hmem
    have hopened := htidy.published uri (List.ne_nil_of_mem (mem_publications.mpr hmem))
    obtain ⟨path, hpath⟩ := hopened.path
    have hsource := Uri.sourcePath?_eq_some_iff.mp hpath
    exact ⟨hopened.event, Uri.scheme_of_filePath? hsource.1, path, hsource⟩

/-- The document is saved and closed while diagnostics are shown for it. The lint of the save has
its findings by then, and its task comes to its end after the close. -/
theorem closed_shows_nothing_late_task :
    let uri : Uri := ⟨"file", some ⟨[], .empty, none⟩, "/w/a.py", none, none⟩
    let session : LintSession := { settings := ⟨{ mypyCommand := "mypy" }⟩ }
    let files : FileSystem := { entries := [(["tmp"], .directory)] }
    let answer : RawResult := { stdout := "a.py:1:1: error: odd\n" }
    let lint : List ServiceEvent := [.resumed 0, .resumed 0, .answered 0 (.ok answer), .resumed 0]
    let events : List ServiceEvent :=
      .notified (.opened uri "y" 1) :: lint ++ .resumed 0 :: .notified (.saved uri none) :: lint ++
        [.notified (.closed uri), .resumed 0]
    let published := (fresh session files).sent events
    let odd : PublishedDiagnostic := ⟨⟨⟨0, 1⟩, ⟨0, 1⟩⟩, .error, "odd"⟩
    publications uri published = [([odd], some 1), ([], none)] ∧
      ((fresh session files).run events).state.documents.isOpen uri = false ∧
      (∀ shown, (publications uri published).getLast? = some shown → shown.1 = []) ∧
      .publish uri [odd] (some 1) ∈ published ∧
      (∃ text given, .notified (.opened uri text given) ∈ events) ∧ uri.scheme = "file" ∧
        ∃ path, uri.filePath? = some path ∧
          (path.extension? = some "py" ∨ path.extension? = some "pyi") := by
  intro uri session files answer lint events published odd
  have hshown : publications uri published = [([odd], some 1), ([], none)] := by decide +kernel
  have hclosed : ((fresh session files).run events).state.documents.isOpen uri = false := by
    decide +kernel
  have hmem : .publish uri [odd] (some 1) ∈ published :=
    mem_publications.mp (by rw [hshown]; exact List.mem_cons_self)
  have hnothing := closed_shows_nothing session files events
  exact ⟨hshown, hclosed, hnothing.1 uri hclosed, hmem, hnothing.2 uri _ _ hmem⟩

end Service

end LintHost
