import LintHost.Proofs.Server.Closing
import LintHost.Proofs.Server.Currency

/-!
# No edit is left without a result

A task that finds its document changed drops what its lint has found, and nothing starts it again.
So it has to be shown that the last word on each document is not dropped: once all tasks have come
to their ends, in whatever order, each open document has been given a result for the text and the
version that it has, and none of an older task after that.

For each open document there is at any moment one of two things (`LintHost.Service.Covered`):

* the last list that was published for it since it was opened is the one for its text and version
  (`LintHost.Service.Settled`);
* some task is on its way that has noted nothing, or just this text and version
  (`LintHost.LintTask.Pursues`).

Whatever gives a document another text or version starts a task, which has noted nothing. From
there the task goes on to its end, since nothing that it compares is different, unless its lint
fails. Its end is a publication, and other publications cannot do harm: as it has been shown, they
are for the text and version of the document, too (`LintHost.Service.Attested.exists_linted`).
-/

namespace LintHost

/-! ### A server that answers -/

/-- Whether the lint of a task has come to an error. -/
def LintTask.failed (task : LintTask) : Bool :=
  match task.stage with
  | .linting _ lint =>
    match lint.stage with
    | .checked (.error _) => true
    | _ => false
  | _ => false

namespace Service

/-- Whether a task goes on with an event, and its lint returns an error. -/
def fails (s : Service) : ServiceEvent → Bool
  | .resumed place => s.tasks[place]?.any LintTask.failed
  | _ => false

/-- **A server that answers** in the course of some events. -/
structure Responsive (start : Service) (events : List ServiceEvent) : Prop where
  /-- The settings ask for a lint of each change. -/
  eager : Throughout (fun s _ => s.state.session.settings.current.lintOnChange = true) start events
  /-- No lint returns an error. -/
  unfailing : Throughout (fun s e => s.fails e = false) start events

variable {start : Service} {events : List ServiceEvent} {e : ServiceEvent}

theorem Responsive.of_append {more : List ServiceEvent} (h : Responsive start (events ++ more)) :
    Responsive start events :=
  ⟨(throughout_append.mp h.eager).1, (throughout_append.mp h.unfailing).1⟩

/-! ### Since a document was opened -/

/-- **The last opening of a document** is the last of the early events. -/
structure OpenedLast (uri : Uri) (early late : List ServiceEvent) : Prop where
  opening : ∃ text version, early.getLast? = some (.notified (.opened uri text version))
  none_since : ∀ text version, .notified (.opened uri text version) ∉ late

variable {uri : Uri} {early late : List ServiceEvent}

theorem OpenedLast.append (h : OpenedLast uri early late)
    (he : ∀ text version, e ≠ .notified (.opened uri text version)) :
    OpenedLast uri early (late ++ [e]) := by
  refine ⟨h.opening, fun text version hmem => ?_⟩
  obtain hlate | hlast := List.mem_append.mp hmem
  · exact h.none_since text version hlate
  · exact he text version (List.mem_singleton.mp hlast).symm

/-- A document that has been opened has been opened a last time. -/
theorem exists_openedLast
    (h : ∃ text version, .notified (.opened uri text version) ∈ events) :
    ∃ early late, events = early ++ late ∧ OpenedLast uri early late := by
  induction events using List.reverseRecOn with
  | nil => simp at h
  | append_singleton events e ih =>
    by_cases he : ∃ text version, e = .notified (.opened uri text version)
    · obtain ⟨text, version, rfl⟩ := he
      exact ⟨_, [], (List.append_nil _).symm, ⟨text, version, List.getLast?_concat⟩, by simp⟩
    · push Not at he
      obtain ⟨text, version, hmem⟩ := h
      obtain hold | hlast := List.mem_append.mp hmem
      · obtain ⟨early, late, rfl, hopened⟩ := ih ⟨text, version, hold⟩
        exact ⟨early, late ++ [e], List.append_assoc early late [e], hopened.append he⟩
      · exact absurd (List.mem_singleton.mp hlast).symm (he text version)

/-! ### The invariant -/

/-- The publication of findings for a text and version. -/
def shown (snapshot : Snapshot) (findings : List Diagnostic) :
    List PublishedDiagnostic × Option Int :=
  (findings.map (PublishedDiagnostic.ofDiagnostic (.ofText snapshot.text)), some snapshot.version)

/-- **A document that has its result**: since it was opened the last time something was published
for it, and last of all the findings for the text and version given. -/
def Settled (start : Service) (events : List ServiceEvent) (uri : Uri) (snapshot : Snapshot) :
    Prop :=
  ∃ early late findings, events = early ++ late ∧ OpenedLast uri early late ∧
    Linted start events uri snapshot findings ∧
    (publications uri ((start.run early).sent late)).getLast? = some (shown snapshot findings)

end Service

/-- **A task on its way to a result** for a document with a text and version: it has noted nothing
else. -/
structure LintTask.Pursues (task : LintTask) (uri : Uri) (snapshot : Snapshot) : Prop where
  uri_eq : task.uri = uri
  before_eq : ∀ before, task.stage.before? = some before → before = snapshot

/-- A task is on its way after what it does with the text and version that it has noted. -/
theorem LintTask.Pursues.next {task : LintTask} {uri : Uri} {snapshot before : Snapshot}
    {stage : TaskStage} (h : task.Pursues uri snapshot) (hold : task.stage.before? = some before)
    (hnew : stage.before? = some before) : { task with stage }.Pursues uri snapshot where
  uri_eq := h.uri_eq
  before_eq noted hnoted := by
    obtain rfl := Option.some.inj (hnew.symm.trans hnoted)
    exact h.before_eq before hold

namespace Service

/-- **Each open document has its result, or a task on its way to it.** -/
def Covered (start : Service) (events : List ServiceEvent) : Prop :=
  ∀ uri snapshot, (start.run events).snapshot? uri = some snapshot →
    Settled start events uri snapshot ∨
      ∃ task ∈ (start.run events).tasks, task.Pursues uri snapshot

/-! ### What an event does to it -/

variable {snapshot : Snapshot}

/-- A document keeps its result while nothing is published for it. -/
theorem Settled.append (h : Settled start events uri snapshot)
    (he : ∀ text version, e ≠ .notified (.opened uri text version))
    (hquiet : publications uri ((start.run events).messages e) = []) :
    Settled start (events ++ [e]) uri snapshot := by
  obtain ⟨early, late, findings, rfl, hopened, hlinted, hlast⟩ := h
  refine ⟨early, late ++ [e], findings, List.append_assoc early late [e], hopened.append he,
    hlinted.append [e], ?_⟩
  rw [sent_concat, publications_append, ← run_append, hquiet, List.append_nil]
  exact hlast

/-- A publication of a task for an open document is its result. -/
theorem settled_of_publications (hall : Attested start events) (htidy : Tidy start events)
    (he : e.notification? = none) (hopen : (start.run events).snapshot? uri = some snapshot)
    {diagnostics : List PublishedDiagnostic} {version : Int}
    (hone : publications uri ((start.run events).messages e) = [(diagnostics, some version)]) :
    Settled start (events ++ [e]) uri snapshot := by
  have hmem : .publish uri diagnostics (some version) ∈ (start.run events).messages e :=
    mem_publications.mp (by rw [hone]; exact List.mem_singleton_self _)
  obtain ⟨text, findings, htext, -, hlinted, rfl⟩ := hall.exists_linted hmem
  obtain rfl := Option.some.inj (htext.symm.trans hopen)
  obtain ⟨early, late, rfl, hopened⟩ := exists_openedLast (htidy.opened uri _ hopen).event
  refine ⟨early, late ++ [e], findings, List.append_assoc early late [e], hopened.append ?_,
    hlinted.append [e], ?_⟩
  · rintro text version rfl
    simp [ServiceEvent.notification?] at he
  · rw [sent_concat, publications_append, ← run_append, hone, List.getLast?_concat]
    rfl

/-- The findings of a lint that has seen the text of an open document still belong to it. -/
theorem isCurrent_of_lines_eq {s : Service} (hopen : s.snapshot? uri = some snapshot) (path : Path)
    {lint : Lint} (hlines : lint.lines = .ofText snapshot.text) :
    lint.isCurrent (s.state.documents.view uri path) = true := by
  rw [Lint.isCurrent, DocumentStore.isAlive_view hopen, DocumentStore.text_view hopen, hlines]
  exact beq_self_eq_true snapshot.text

/-- **A task on its way to a result stays on it**, unless it publishes the result or fails. -/
theorem exists_pursues_of_move {task : LintTask} (h : task.Pursues uri snapshot)
    {place : Nat} (hsound : Sound start events place task)
    (hopen : (start.run events).snapshot? uri = some snapshot)
    {answer? : Option (Except SystemError RawResult)} {r : StepResult}
    (hmove : task.Move (start.run events).state answer? r)
    (hfine : answer? = none → task.failed = false)
    (hquiet : publications uri r.messages = []) : ∃ next ∈ r.tasks, next.Pursues uri snapshot := by
  obtain rfl := h.uri_eq
  cases hmove with
  | missed hstage hclosed => exact nomatch hclosed.symm.trans hopen
  | @noted before hstage hnoted =>
    refine ⟨_, List.mem_singleton_self _, rfl, ?_⟩
    rintro _ ⟨⟩
    exact Option.some.inj (hnoted.symm.trans hopen)
  | begun hstage hlint =>
    exact ⟨_, List.mem_singleton_self _, h.next (by rw [hstage]; rfl) rfl⟩
  | received hstage answer =>
    exact ⟨_, List.mem_singleton_self _, h.next (by rw [hstage]; rfl) rfl⟩
  | agreed hstage hchecked hcurrent =>
    exact ⟨_, List.mem_singleton_self _, h.next (by rw [hstage]; rfl) rfl⟩
  | @dropped before lint findings hstage hchecked hother =>
    -- The task has noted the text that is there, so this is what its lint has seen.
    obtain rfl := h.before_eq before (by rw [hstage]; rfl)
    obtain ⟨-, hbacked⟩ := hsound.same before before (by rw [hstage]; rfl) hopen rfl
    rw [hstage] at hbacked
    obtain ⟨early, begun, -, -, hlints⟩ := hbacked
    exact nomatch hother.symm.trans (isCurrent_of_lines_eq hopen task.path hlints.lines_eq)
  | failed hstage hchecked => exact absurd (hfine rfl) (by simp [LintTask.failed, hstage, hchecked])
  | published hstage hsame => simp [publications, ServerMessage.publication?] at hquiet
  | @outdated before findings hstage hother =>
    obtain rfl := h.before_eq before (by rw [hstage]; rfl)
    exact absurd hopen hother

/-- A task that is started for a document is on its way. -/
theorem exists_pursues_of_started {path : Path} (hpath : uri.sourcePath? = some path)
    {tasks : List LintTask} (htasks : LintTask.of uri ⊆ tasks) :
    ∃ task ∈ tasks, task.Pursues uri snapshot := by
  refine ⟨⟨uri, path, .spawned⟩, htasks ?_, rfl, nofun⟩
  rw [LintTask.of, hpath]
  exact List.mem_singleton_self _

/-- **A notification keeps the documents covered.** -/
theorem Covered.handled (h : Covered start events) (htidy : Tidy start events) {n : Notification}
    (heager : (start.run events).state.session.settings.current.lintOnChange = true) :
    Covered start (events ++ [.notified n]) := by
  intro uri snapshot hopen
  rw [run_concat, snapshot?_step_notified] at hopen
  have hpath : ∀ old, (start.run events).snapshot? uri = some old →
      ∃ path, uri.sourcePath? = some path := fun old hold => (htidy.opened uri old hold).path
  have hstarted : LintTask.of uri ⊆ ((start.run events).state.handle n).tasks →
      (∃ path, uri.sourcePath? = some path) →
        ∃ task ∈ (start.run (events ++ [.notified n])).tasks, task.Pursues uri snapshot := by
    rintro hsub ⟨path, hpath⟩
    rw [run_concat, tasks_step_notified]
    exact exists_pursues_of_started hpath fun task hmem => List.mem_append_right _ (hsub hmem)
  cases (start.run events).state.effect_handle uri n with
  | kept hopened hsnapshot hquiet =>
    have hold : (start.run events).snapshot? uri = some snapshot := hsnapshot.symm.trans hopen
    obtain hsettled | ⟨task, hmem, hpursues⟩ := h uri snapshot hold
    · refine Or.inl (hsettled.append (fun text version heq => ?_) hquiet)
      obtain ⟨path, hpath⟩ := hpath snapshot hold
      exact nomatch (hopened text version (ServiceEvent.notified.inj heq)).symm.trans hpath
    · refine Or.inr ⟨task, ?_, hpursues⟩
      rw [run_concat, tasks_step_notified]
      exact List.mem_append_left _ hmem
  | opened hpath hsnapshot htasks hquiet => exact Or.inr (hstarted htasks ⟨_, hpath⟩)
  | changed hold hsnapshot htasks hquiet => exact Or.inr (hstarted (htasks heager) (hpath _ hold))
  | saved hold hsnapshot htasks hquiet => exact Or.inr (hstarted htasks (hpath _ hold))
  | closed hold hsnapshot hcleared => exact nomatch hsnapshot.symm.trans hopen

/-- **A step of a task keeps the documents covered**, if it is not the end of a lint with an
error. -/
theorem Covered.moved (h : Covered start events) (hall : Attested start events)
    (htidy : Tidy start events) (he : e.notification? = none)
    (hfine : (start.run events).fails e = false) : Covered start (events ++ [e]) := by
  intro uri snapshot hopen
  have hreaction := (start.run events).reaction e
  rw [snapshot?_run_concat start events he] at hopen
  obtain hquiet | ⟨diagnostics, version, hone⟩ := hreaction.publications_cases he uri
  · obtain hsettled | ⟨task, hmem, hpursues⟩ := h uri snapshot hopen
    · refine Or.inl (hsettled.append ?_ hquiet)
      rintro text version rfl
      simp [ServiceEvent.notification?] at he
    · rw [run_concat]
      obtain hstays | ⟨place, answer?, r, hturn, hplace, hmove, hleft, hmessages⟩ :=
        hreaction.stays_or_moves hmem
      · exact Or.inr ⟨task, hstays, hpursues⟩
      · rw [← hmessages] at hquiet
        have hunfailing : answer? = none → task.failed = false := by
          rintro rfl
          obtain rfl := ServiceEvent.eq_resumed hturn
          rwa [fails, hplace] at hfine
        obtain ⟨next, hnext, hnextPursues⟩ := exists_pursues_of_move hpursues
          (hall.tasks place task hplace) hopen hmove hunfailing hquiet
        exact Or.inr ⟨next, hleft hnext, hnextPursues⟩
  · exact Or.inl (settled_of_publications hall htidy he hopen hone)

/-- The documents are covered after any events. -/
theorem covered_run (session : LintSession) (files : FileSystem) (events : List ServiceEvent)
    (hclient : Orderly (fresh session files) events)
    (hserver : Responsive (fresh session files) events) : Covered (fresh session files) events := by
  induction events using List.reverseRecOn with
  | nil => intro uri snapshot hopen; simp at hopen
  | append_singleton events e ih =>
    have hcovered := ih hclient.of_append hserver.of_append
    have htidy := tidy_run session files events
    obtain ⟨n, rfl⟩ | he := e.eq_notified_or
    · exact hcovered.handled htidy (throughout_append.mp hserver.eager).2.1
    · exact hcovered.moved (attested_run session files events hclient.of_append) htidy he
        (throughout_append.mp hserver.unfailing).2.1

/-- **No edit is left without a result.** In every order of notifications and task steps, with a
client that keeps to its part and a server that lints each change and no lint of which returns an
error: once no task is left, something has been published for each open document since it was
opened the last time, and what was published last carries the version of the document, and is what
a lint of exactly its text has found, with the answer to its own run of the checker. -/
theorem last_publication_is_current (session : LintSession) (files : FileSystem)
    (events : List ServiceEvent) (hclient : Orderly (fresh session files) events)
    (hserver : Responsive (fresh session files) events)
    (hdone : ((fresh session files).run events).tasks = []) (uri : Uri) (snapshot : Snapshot)
    (hopen : ((fresh session files).run events).snapshot? uri = some snapshot) :
    ∃ early late findings, events = early ++ late ∧ OpenedLast uri early late ∧
      Linted (fresh session files) events uri snapshot findings ∧
      (publications uri (((fresh session files).run early).sent late)).getLast? =
        some (shown snapshot findings) ∧
      (publications uri ((fresh session files).sent events)).getLast? =
        some (shown snapshot findings) := by
  obtain ⟨early, late, findings, hsplit, hopened, hlinted, hlast⟩ | ⟨task, hmem, -⟩ :=
    covered_run session files events hclient hserver uri snapshot hopen
  · refine ⟨early, late, findings, hsplit, hopened, hlinted, hlast, ?_⟩
    rw [hsplit, sent_append, publications_append, List.getLast?_append, hlast, Option.some_or]
  · rw [hdone] at hmem
    exact absurd hmem List.not_mem_nil

/-- The lint of the first text is answered last, when the result for the second one has been
published. -/
theorem last_publication_is_current_answered_late :
    let uri : Uri := ⟨"file", some ⟨[], .empty, none⟩, "/w/a.py", none, none⟩
    let start : Service := fresh { settings := ⟨{ mypyCommand := "mypy" }⟩ }
      { entries := [(["tmp"], .directory)] }
    let answer : RawResult := { stdout := "a.py:1:1: error: odd\n" }
    let events : List ServiceEvent :=
      [.notified (.opened uri "x = 1\n" 1), .resumed 0, .resumed 0,
        .notified (.changed uri ["y"] 2), .resumed 1, .resumed 1, .answered 1 (.ok answer),
        .resumed 1, .resumed 1, .answered 0 (.ok answer), .resumed 0]
    Orderly start events ∧ Responsive start events ∧ (start.run events).tasks = [] ∧
      (start.run events).snapshot? uri = some ⟨"y", 2⟩ ∧
      ∃ early late findings, events = early ++ late ∧ OpenedLast uri early late ∧
        Linted start events uri ⟨"y", 2⟩ findings ∧
        (publications uri ((start.run early).sent late)).getLast? =
          some (shown ⟨"y", 2⟩ findings) ∧
        (publications uri (start.sent events)).getLast? = some (shown ⟨"y", 2⟩ findings) := by
  intro uri start answer events
  have hclient : Orderly start events :=
    orderly_of_uri uri (by decide +kernel) (by decide +kernel) (by decide +kernel)
  have hserver : Responsive start events := ⟨by decide +kernel, by decide +kernel⟩
  have hdone : (start.run events).tasks = [] := List.isEmpty_iff.mp (by decide +kernel)
  have hopen : (start.run events).snapshot? uri = some ⟨"y", 2⟩ := by decide +kernel
  exact ⟨hclient, hserver, hdone, hopen,
    last_publication_is_current _ _ events hclient hserver hdone uri _ hopen⟩

end Service

end LintHost
