import LintHost.Proofs.Lint.Progress
import LintHost.Proofs.Server.Following
import Mathlib.Data.List.Induction

/-!
# Diagnostics belong to the text that they are published for

A task reads the store four times: it notes a snapshot, its lint reads the text, the lint compares
the text, and last the snapshot is compared. The list that it publishes is placed in the lines of
the snapshot, which is not what its lint read. This file shows that the two texts are the same
wherever something is published, as long as the client keeps to its part of the protocol
(`LintHost.Service.Orderly`): the versions that it gives to a document only grow, and a save brings
no text that the document has not had.

The argument is that a version never comes back. Once the store holds another version than a task
has noted, or none, it will never hold the noted version again
(`LintHost.Service.Orderly.known_or_given`). So a task that finds the noted version at the end has
had it before its eyes all the time. `LintHost.Service.Attested` says this of all tasks at once,
as what is true of a task *if* the store holds the version that the task has noted; each event
keeps it, and it makes no difference what the other tasks do.

Findings for a text (`LintHost.Service.Linted`) are what the check of it comes to with the answer
that the very task got that began its lint with this text. The run that this answer is for is the
one that was prepared for the text (`LintHost.Service.Begins.prepared`). Answers to other tasks do
not count, even if the runs look the same, so a lint comes to one thing
(`LintHost.Service.eq_of_comesTo`).
-/

namespace LintHost

/-! ### The client's part -/

/-- The version that an event gives to a document, by opening or changing it. -/
def ServiceEvent.version? (uri : Uri) : ServiceEvent → Option Int
  | .notified (.opened about _ version) => if about = uri then some version else none
  | .notified (.changed about _ version) => if about = uri then some version else none
  | _ => none

/-- The versions that a client gives to a document in the course of some events, in order. They
are counted on when the document is closed and opened again. -/
def versionsOf (uri : Uri) (events : List ServiceEvent) : List Int :=
  events.filterMap (ServiceEvent.version? uri)

theorem versionsOf_append (uri : Uri) (first more : List ServiceEvent) :
    versionsOf uri (first ++ more) = versionsOf uri first ++ versionsOf uri more :=
  List.filterMap_append

theorem mem_versionsOf_singleton {uri : Uri} {e : ServiceEvent} {version : Int} :
    version ∈ versionsOf uri [e] ↔ e.version? uri = some version := by
  simp [versionsOf]

namespace Service

/-- Whether an event is a save that brings another text than the open document has. -/
def overwrites (s : Service) : ServiceEvent → Bool
  | .notified (.saved uri (some text)) => (s.snapshot? uri).any fun old => old.text ≠ text
  | _ => false

/-- What holds of each event of a run and the server at that moment. -/
def Throughout (P : Service → ServiceEvent → Prop) : Service → List ServiceEvent → Prop
  | _, [] => True
  | s, e :: events => P s e ∧ Throughout P (s.step e) events

instance decidableThroughout (P : Service → ServiceEvent → Prop) [∀ s e, Decidable (P s e)] :
    ∀ s events, Decidable (Throughout P s events)
  | _, [] => instDecidableTrue
  | s, e :: events =>
    have := decidableThroughout P (s.step e) events
    inferInstanceAs (Decidable (_ ∧ _))

theorem throughout_append {P : Service → ServiceEvent → Prop} {s : Service}
    {first more : List ServiceEvent} :
    Throughout P s (first ++ more) ↔ Throughout P s first ∧ Throughout P (s.run first) more := by
  induction first generalizing s with
  | nil => simp [Throughout]
  | cons e first ih =>
    rw [List.cons_append, Throughout, Throughout, ih, and_assoc]
    rfl

/-- **A client that keeps to its part**, in the course of some events. -/
structure Orderly (start : Service) (events : List ServiceEvent) : Prop where
  /-- Each version of a document is greater than those before it. -/
  versions : ∀ uri, (versionsOf uri events).Pairwise (· < ·)
  /-- A save brings the text that the document has, or none. -/
  saves : Throughout (fun s e => s.overwrites e = false) start events

variable {start : Service} {events : List ServiceEvent} {e : ServiceEvent}

theorem Orderly.of_append {more : List ServiceEvent} (h : Orderly start (events ++ more)) :
    Orderly start events := by
  refine ⟨fun uri => ?_, (throughout_append.mp h.saves).1⟩
  have hversions := h.versions uri
  rw [versionsOf_append] at hversions
  exact (List.pairwise_append.mp hversions).1

/-- No other document is given a version in a run about one. -/
theorem orderly_of_uri (uri : Uri)
    (hone : ∀ e ∈ events, ∀ n ∈ e.notification?, ∀ about ∈ n.uri?, about = uri)
    (hversions : (versionsOf uri events).Pairwise (· < ·))
    (hsaves : Throughout (fun s e => s.overwrites e = false) start events) :
    Orderly start events := by
  refine ⟨fun about => ?_, hsaves⟩
  obtain rfl | hother := Decidable.eq_or_ne about uri
  · exact hversions
  · have hnone : versionsOf about events = [] := by
      rw [versionsOf, List.filterMap_eq_nil_iff]
      intro e he
      unfold ServiceEvent.version?
      split
      · exact if_neg fun habout => hother (habout.symm.trans (hone _ he _ rfl _ rfl))
      · exact if_neg fun habout => hother (habout.symm.trans (hone _ he _ rfl _ rfl))
      · rfl
    rw [hnone]
    exact List.Pairwise.nil

/-- A version that is given is a new one. -/
theorem Orderly.lt_of_version? (h : Orderly start (events ++ [e])) {uri : Uri} {version : Int}
    (hversion : e.version? uri = some version) : ∀ old ∈ versionsOf uri events, old < version := by
  intro old hold
  have hversions := h.versions uri
  rw [versionsOf_append] at hversions
  exact (List.pairwise_append.mp hversions).2.2 old hold version
    (mem_versionsOf_singleton.mpr hversion)

/-- **A document that is open after an event** was so before, with the same text and version, or
has been given its version by the event. -/
theorem Orderly.known_or_given (h : Orderly start (events ++ [e])) {uri : Uri}
    {snapshot : Snapshot} (hopen : (start.run (events ++ [e])).snapshot? uri = some snapshot) :
    (start.run events).snapshot? uri = some snapshot ∨
      e.version? uri = some snapshot.version := by
  obtain ⟨n, rfl⟩ | he := e.eq_notified_or
  · rw [run_concat] at hopen
    have hsave := (throughout_append.mp h.saves).2.1
    cases (start.run events).state.effect_handle uri n with
    | kept hopened hsnapshot hquiet => exact Or.inl (hsnapshot.symm.trans hopen)
    | opened hpath hsnapshot htasks hquiet =>
      obtain rfl := Option.some.inj (hsnapshot.symm.trans hopen)
      exact Or.inr (if_pos rfl)
    | changed hold hsnapshot htasks hquiet =>
      obtain rfl := Option.some.inj (hsnapshot.symm.trans hopen)
      exact Or.inr (if_pos rfl)
    | @saved text _ old hold hsnapshot htasks hquiet =>
      obtain rfl := Option.some.inj (hsnapshot.symm.trans hopen)
      cases text with
      | none => exact Or.inl hold
      | some text =>
        have hsame : old.text = text := by
          have hold' : (start.run events).snapshot? uri = some old := hold
          simpa [overwrites, hold'] using hsave
        exact Or.inl (by rw [← hsame]; exact hold)
    | closed hold hsnapshot hcleared => exact nomatch hsnapshot.symm.trans hopen
  · rw [snapshot?_run_concat start events he] at hopen
    exact Or.inl hopen

end Service

/-! ### Findings for a text -/

/-- What a lint works in that begins now. -/
def ServerState.workspace (s : ServerState) : Workspace Unit := ⟨s.session, s.files, ()⟩

/-- The text and the version that a task has noted. -/
def TaskStage.before? : TaskStage → Option Snapshot
  | .spawned => none
  | .noted before => some before
  | .linting before _ => some before
  | .compared before _ => some before

namespace Service

variable (start : Service) (events : List ServiceEvent)

/-- **A lint that begins** in the course of some events, after the early ones of them: the task at a
place goes on, which has noted the text and version that its document has then. -/
structure Begins (uri : Uri) (path : Path) (snapshot : Snapshot) (early : List ServiceEvent)
    (place : Nat) : Prop where
  path_eq : uri.sourcePath? = some path
  resumed : early ++ [.resumed place] <+: events
  task_eq : (start.run early).tasks[place]? = some ⟨uri, path, .noted snapshot⟩
  open_eq : (start.run early).snapshot? uri = some snapshot

/-- What a lint checks that begins after the early events. -/
def target (s : Service) (uri : Uri) (path : Path) (snapshot : Snapshot) : CheckTarget where
  path := path
  content := snapshot.text
  isModified := (s.state.documents.view uri path).isModified

/-- **Findings for a text and version**: a lint of the document began when it had them, and the
check of exactly this text, in the settings and files of that moment and with the answer that the
checker gave to the task of this lint, comes to the findings. -/
def Linted (uri : Uri) (snapshot : Snapshot) (findings : List Diagnostic) : Prop :=
  ∃ path early place, Begins start events uri path snapshot early place ∧
    (start.run early).state.workspace.ComesTo (Answered start events early place)
      ((start.run early).target uri path snapshot) (.ok findings)

/-- What stands behind the task at a place and at its stage, if its document has been as noted all
the time. -/
def Backed (place : Nat) (uri : Uri) (path : Path) (before : Snapshot) : TaskStage → Prop
  | .spawned => True
  | .noted _ => True
  | .linting _ lint => ∃ early begun, Reaches start events early begun place ∧
      Begins start events uri path before early begun ∧
      (start.run early).state.workspace.Lints (Answered start events early begun)
        ((start.run early).target uri path before) lint
  | .compared _ findings => Linted start events uri before findings

variable {start events} {uri : Uri} {path : Path} {snapshot : Snapshot} {e : ServiceEvent}
  {early : List ServiceEvent} {place now : Nat}

/-- **A lint comes to one thing**: nothing that the checker answered to another task, or at another
time, is what its findings are made with. -/
theorem eq_of_comesTo {w : Workspace Unit} {target : CheckTarget}
    {first second : Except LintError (List Diagnostic)}
    (h₁ : w.ComesTo (Answered start events early place) target first)
    (h₂ : w.ComesTo (Answered start events early place) target second) : first = second :=
  h₁.unique (fun _ _ _ hanswer hother => (hanswer.unique hother).2) h₂

theorem Begins.append (h : Begins start events uri path snapshot early place)
    (more : List ServiceEvent) : Begins start (events ++ more) uri path snapshot early place :=
  { h with resumed := h.resumed.trans (List.prefix_append events more) }

theorem Linted.append {findings : List Diagnostic} (h : Linted start events uri snapshot findings)
    (more : List ServiceEvent) : Linted start (events ++ more) uri snapshot findings := by
  obtain ⟨path, early, place, hbegins, hfindings⟩ := h
  exact ⟨path, early, place, hbegins.append more, hfindings.mono fun _ _ h => h.append more⟩

/-- What stands behind a task that does not move stands behind it at the place that it has then. -/
theorem Backed.append {stage : TaskStage} (h : Backed start events place uri path snapshot stage)
    (hnow : (start.run events).placeAfter e place = some now) :
    Backed start (events ++ [e]) now uri path snapshot stage := by
  cases stage with
  | spawned => trivial
  | noted before => trivial
  | linting before lint =>
    obtain ⟨early, begun, hreaches, hbegins, hlints⟩ := h
    exact ⟨early, begun, hreaches.append hnow, hbegins.append [e],
      hlints.mono fun _ _ h => h.append [e]⟩
  | compared before findings => exact Linted.append h [e]

/-- A lint of an open document begins as one of its text. -/
theorem target_view {s : Service} (h : s.snapshot? uri = some snapshot) (path : Path) :
    (s.state.documents.view uri path).target path = s.target uri path snapshot := by
  rw [DocumentView.target, target, DocumentStore.text_view h]

/-- **A lint that begins has a run prepared for its text**: the files are then as they were prepared
for this text, and its task waits for this run. -/
theorem Begins.prepared (h : Begins start events uri path snapshot early place)
    {files : FileSystem} {invocation : Invocation}
    (hprepared : (start.run early).state.workspace.prepared
      ((start.run early).target uri path snapshot) = .ok (files, invocation)) :
    (start.run (early ++ [.resumed place])).state.files = files ∧
      (start.run (early ++ [.resumed place])).tasks[place]?.bind LintTask.waitsFor? =
        some invocation := by
  have hbegin : (start.run early).state.session.begin (start.run early).state.files
      ((start.run early).state.documents.view uri path) =
        (some ⟨path, .ofText snapshot.text, .running invocation⟩,
          (start.run early).state.workspace.searched path, files) := by
    refine (Workspace.begin_eq (start.run early).state.workspace rfl).trans ?_
    rw [target_view h.open_eq, hprepared, DocumentStore.text_view h.open_eq]
  have hlt : place < (start.run early).tasks.length := (List.getElem?_eq_some_iff.mp h.task_eq).1
  rw [run_concat, step, react, h.task_eq, Option.bind_some]
  simp only [LintTask.step, LintTask.begin, hbegin]
  refine ⟨rfl, ?_⟩
  rw [tasks_replace hlt rfl, List.getElem?_set_self hlt]
  rfl

/-! ### The invariant -/

/-- **What is true of the task at a place** after some events. -/
structure Sound (start : Service) (events : List ServiceEvent) (place : Nat) (task : LintTask) :
    Prop where
  path_eq : task.uri.sourcePath? = some task.path
  /-- The version that it has noted is one that the client has given. -/
  given : ∀ before, task.stage.before? = some before → before.version ∈ versionsOf task.uri events
  /-- If the document has the version noted, it has the text noted, and the task has worked with
  that. -/
  same : ∀ before snapshot, task.stage.before? = some before →
    (start.run events).snapshot? task.uri = some snapshot → snapshot.version = before.version →
      snapshot = before ∧ Backed start events place task.uri task.path before task.stage

/-- **What is true of the documents and all tasks** after some events. -/
structure Attested (start : Service) (events : List ServiceEvent) : Prop where
  /-- The version of an open document is one that the client has given. -/
  stored : ∀ uri snapshot, (start.run events).snapshot? uri = some snapshot →
    snapshot.version ∈ versionsOf uri events
  tasks : ∀ place task, (start.run events).tasks[place]? = some task →
    Sound start events place task

variable {task : LintTask}

theorem sound_of_starts (h : task.Starts) : Sound start events place task where
  path_eq := h.path_eq
  given before hbefore := by simp [h.stage_eq, TaskStage.before?] at hbefore
  same before snapshot hbefore := by simp [h.stage_eq, TaskStage.before?] at hbefore

/-- **A task that comes to another stage with what it has noted** stays sound at the place that it
has then, if that stands behind the new stage as it did behind the old one: the version that it has
noted is not given again. -/
theorem Sound.next {stage : TaskStage} (h : Sound start events place task)
    (hclient : Orderly start (events ++ [e])) (hnoted : stage.before? = task.stage.before?)
    (hbacked : ∀ before, task.stage.before? = some before →
      (start.run events).snapshot? task.uri = some before →
        Backed start events place task.uri task.path before task.stage →
          Backed start (events ++ [e]) now task.uri task.path before stage) :
    Sound start (events ++ [e]) now { task with stage } where
  path_eq := h.path_eq
  given before hbefore := by
    rw [versionsOf_append]
    exact List.mem_append_left _ (h.given before (hnoted.symm.trans hbefore))
  same before snapshot hbefore hopen hversion := by
    have hold : task.stage.before? = some before := hnoted.symm.trans hbefore
    obtain hknown | hnew := hclient.known_or_given hopen
    · obtain ⟨rfl, hstage⟩ := h.same before snapshot hold hknown hversion
      exact ⟨rfl, hbacked _ hold hknown hstage⟩
    · have hlt := hclient.lt_of_version? hnew before.version (h.given before hold)
      omega

/-- A task that does not move stays sound. -/
theorem Sound.append (h : Sound start events place task) (hclient : Orderly start (events ++ [e]))
    (hnow : (start.run events).placeAfter e place = some now) :
    Sound start (events ++ [e]) now task :=
  h.next hclient rfl fun _ _ _ hbacked => hbacked.append hnow

/-- **A task that moves stays sound.** -/
theorem Sound.move (h : Sound start events place task) (hall : Attested start events)
    (hclient : Orderly start (events ++ [e]))
    {answer? : Option (Except SystemError RawResult)} {r : StepResult} {next : LintTask}
    (hturn : e.turn? = some (place, answer?)) (htask : (start.run events).tasks[place]? = some task)
    (hmove : task.Move (start.run events).state answer? r) (hnext : next ∈ r.tasks)
    (hnow : (start.run events).placeAfter e place = some now) :
    Sound start (events ++ [e]) now next := by
  cases hmove with
  | noted hstage hopen =>
    obtain rfl := List.mem_singleton.mp hnext
    refine ⟨h.path_eq, ?_, ?_⟩
    · rintro _ ⟨⟩
      rw [versionsOf_append]
      exact List.mem_append_left _ (hall.stored _ _ hopen)
    · rintro _ snapshot ⟨⟩ hlater -
      rw [snapshot?_run_concat start events (ServiceEvent.notification?_of_turn? hturn)] at hlater
      exact ⟨Option.some.inj (hlater.symm.trans hopen), trivial⟩
  | @begun before lint session files hstage hlint =>
    obtain rfl := List.mem_singleton.mp hnext
    refine h.next hclient (by rw [hstage]; rfl) fun _ hbefore hopen _ => ?_
    rw [hstage] at hbefore
    obtain rfl := Option.some.inj hbefore
    refine ⟨events, place, (reaches_self start events place).append hnow, ?_, ?_⟩
    · obtain rfl := ServiceEvent.eq_resumed hturn
      refine ⟨h.path_eq, List.prefix_rfl, ?_, hopen⟩
      rw [htask, ← hstage]
    · rw [← target_view hopen]
      exact Workspace.lints_of_begin (w := (start.run events).state.workspace) rfl hlint
  | @received before lint hstage answer =>
    obtain rfl := List.mem_singleton.mp hnext
    refine h.next hclient (by rw [hstage]; rfl) fun _ _ _ hbacked => ?_
    rw [hstage] at hbacked
    obtain ⟨early, begun, hreaches, hbegins, hlints⟩ := hbacked
    refine ⟨early, begun, hreaches.append hnow, hbegins.append [e],
      (hlints.mono fun _ _ h => h.append [e]).receive _ fun invocation hrunning => ?_⟩
    -- The answer is for the task that has been followed to this place.
    obtain rfl := ServiceEvent.eq_answered hturn
    refine ⟨events, place, List.prefix_rfl, hreaches, ?_⟩
    rw [htask, Option.bind_some, LintTask.waitsFor?, hstage]
    simp only [hrunning]
  | @agreed before lint findings hstage hchecked hcurrent =>
    obtain rfl := List.mem_singleton.mp hnext
    refine h.next hclient (by rw [hstage]; rfl) fun _ _ _ hbacked => ?_
    rw [hstage] at hbacked
    obtain ⟨early, begun, -, hbegins, hlints⟩ := hbacked
    exact Linted.append ⟨task.path, early, begun, hbegins, hlints.comesTo hchecked⟩ [e]
  | _ => simp at hnext

/-- **An event keeps the documents and all tasks attested.** -/
theorem Attested.step (h : Attested start events) (hclient : Orderly start (events ++ [e])) :
    Attested start (events ++ [e]) where
  stored uri snapshot hopen := by
    rw [versionsOf_append]
    obtain hknown | hnew := hclient.known_or_given hopen
    · exact List.mem_append_left _ (h.stored uri snapshot hknown)
    · exact List.mem_append_right _ (mem_versionsOf_singleton.mpr hnew)
  tasks now task htask := by
    rw [run_concat] at htask
    obtain hstarts | ⟨place, old, hold, hnow, hsame⟩ :=
      ((start.run events).shift e).exists_before htask
    · exact sound_of_starts hstarts
    · obtain rfl | ⟨answer?, r, hturn, hmove, hnext⟩ := hsame
      · exact (h.tasks place task hold).append hclient hnow
      · exact (h.tasks place old hold).move h hclient hturn hold hmove hnext hnow

/-- All is attested after any events, if the client keeps to its part. -/
theorem attested_run (session : LintSession) (files : FileSystem) (events : List ServiceEvent)
    (hclient : Orderly (fresh session files) events) : Attested (fresh session files) events := by
  induction events using List.reverseRecOn with
  | nil => exact ⟨by simp, by simp [fresh]⟩
  | append_singleton events e ih => exact (ih hclient.of_append).step hclient

/-! ### What is published -/

/-- A notification publishes nothing with a version. -/
theorem not_publish_of_notified {s : Service} {n : Notification} {uri : Uri}
    {diagnostics : List PublishedDiagnostic} {version : Int} :
    .publish uri diagnostics (some version) ∉ s.messages (.notified n) := by
  intro hmem
  rw [messages_notified, ← mem_publications] at hmem
  obtain hquiet | ⟨hcleared, -⟩ := (s.state.effect_handle uri n).publications_cases
  · simp [hquiet] at hmem
  · simp [hcleared] at hmem

/-- What is published after attested events are findings for the text and version that the store
has. -/
theorem Attested.exists_linted (h : Attested start events) {uri : Uri}
    {diagnostics : List PublishedDiagnostic} {version : Int}
    (hmem : .publish uri diagnostics (some version) ∈ (start.run events).messages e) :
    ∃ text findings, (start.run events).snapshot? uri = some ⟨text, version⟩ ∧
      e.notification? = none ∧ Linted start events uri ⟨text, version⟩ findings ∧
      diagnostics = findings.map (PublishedDiagnostic.ofDiagnostic (.ofText text)) := by
  obtain ⟨n, rfl⟩ | he := e.eq_notified_or
  · exact absurd hmem not_publish_of_notified
  · obtain ⟨task, htask, before, findings, rfl, hstage, hopen, hdiagnostics, hversion⟩ :=
      ((start.run events).reaction e).exists_compared he hmem
    obtain rfl := Option.some.inj hversion
    obtain ⟨place, hplace⟩ := List.getElem?_of_mem htask
    obtain ⟨-, hbacked⟩ :=
      (h.tasks place task hplace).same before before (by rw [hstage]; rfl) hopen rfl
    rw [hstage] at hbacked
    exact ⟨before.text, findings, hopen, he, hbacked, hdiagnostics⟩

/-- **Diagnostics belong to the text that they are published for.** In every order of notifications
and task steps, with a client that keeps to its part, each list that is published with a version is
published while the store has the document with this version. The list is, placed in the lines of
the text that the store has then, what a lint of exactly this text has found, which began when the
document had text and version and used no answer of the checker but the one to its own run. -/
theorem publish_for_stored_text (session : LintSession) (files : FileSystem)
    (events : List ServiceEvent) (e : ServiceEvent)
    (hclient : Orderly (fresh session files) events) (uri : Uri)
    (diagnostics : List PublishedDiagnostic) (version : Int)
    (hmem : .publish uri diagnostics (some version) ∈
      ((fresh session files).run events).messages e) :
    ∃ text findings,
      ((fresh session files).run events).snapshot? uri = some ⟨text, version⟩ ∧
      ((fresh session files).run (events ++ [e])).snapshot? uri = some ⟨text, version⟩ ∧
      Linted (fresh session files) events uri ⟨text, version⟩ findings ∧
      diagnostics = findings.map (PublishedDiagnostic.ofDiagnostic (.ofText text)) := by
  obtain ⟨text, findings, hopen, he, hlinted, hdiagnostics⟩ :=
    (attested_run session files events hclient).exists_linted hmem
  refine ⟨text, findings, hopen, ?_, hlinted, hdiagnostics⟩
  rw [snapshot?_run_concat _ events he]
  exact hopen

/-- The first task notes the first text and lints the second one, which it finds unchanged. It
publishes nothing all the same, and the second task does. -/
theorem publish_for_stored_text_changed_meanwhile :
    let uri : Uri := ⟨"file", some ⟨[], .empty, none⟩, "/w/a.py", none, none⟩
    let session : LintSession := { settings := ⟨{ mypyCommand := "mypy" }⟩ }
    let files : FileSystem := { entries := [(["tmp"], .directory)] }
    let answer : RawResult := { stdout := "a.py:1:1: error: odd\n" }
    let events : List ServiceEvent :=
      [.notified (.opened uri "x = 1\n" 1), .resumed 0, .notified (.changed uri ["😀y"] 2),
        .resumed 0, .resumed 1, .resumed 1, .answered 0 (.ok answer), .resumed 0, .resumed 0,
        .answered 0 (.ok answer), .resumed 0]
    let shown : PublishedDiagnostic :=
      { range := ⟨⟨0, 2⟩, ⟨0, 3⟩⟩, severity := .error, message := "odd" }
    Orderly (fresh session files) events ∧
      .publish uri [shown] (some 2) ∈ ((fresh session files).run events).messages (.resumed 0) ∧
      ∃ text findings, ((fresh session files).run events).snapshot? uri = some ⟨text, 2⟩ ∧
        ((fresh session files).run (events ++ [.resumed 0])).snapshot? uri = some ⟨text, 2⟩ ∧
        Linted (fresh session files) events uri ⟨text, 2⟩ findings ∧
        [shown] = findings.map (PublishedDiagnostic.ofDiagnostic (.ofText text)) := by
  intro uri session files answer events shown
  have hclient : Orderly (fresh session files) events :=
    orderly_of_uri uri (by decide +kernel) (by decide +kernel) (by decide +kernel)
  have hmem : .publish uri [shown] (some 2) ∈
      ((fresh session files).run events).messages (.resumed 0) := by
    decide +kernel
  exact ⟨hclient, hmem, publish_for_stored_text session files events _ hclient uri _ _ hmem⟩

end Service

end LintHost
