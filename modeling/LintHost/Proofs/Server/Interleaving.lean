import LintHost.Proofs.Server.Effects

/-!
# The server at work, in every order

A client does not wait for the server's lints: while some of them are under way it opens, changes,
saves and closes documents, and each of these may start further lints. This file has the server
together with its tasks, `LintHost.Service`, and the events that can happen to them, in any order
and any number. A notification is handled in one step, and a task goes on by one of its steps at a
time, so a sequence of events is an interleaving of the client with all the tasks that it has
started.

What an event can do is said once, and every law about runs is an induction that goes through it:

| what happens | what it can do | stated by |
|--------------|----------------|-----------|
| any event | a notification, a move of one task, or other files | `LintHost.Service.reaction` |
| a task moves | one of nine moves, none of which changes the documents | `LintHost.LintTask.Move` |
| a notification | to the document of a URI, one of five effects | `LintHost.ServerState.Effect` |
-/

namespace LintHost

/-! ### Runs -/

/-- **The server at work**: its state, and the lint tasks that have not come to their end. -/
structure Service where
  state : ServerState := {}
  tasks : List LintTask := []
deriving Inhabited

/-- What can happen next to a server at work. -/
inductive ServiceEvent where
  /-- The client notifies the server, which handles this in one step. -/
  | notified (n : Notification)
  /-- The task at a place goes on by one step, unless its checker is running. -/
  | resumed (place : Nat)
  /-- The checker that the task at a place waits for has ended. -/
  | answered (place : Nat) (answer : Except SystemError RawResult)
  /-- The files on disk become others. -/
  | rewritten (files : FileSystem)
deriving Inhabited

namespace Service

/-- A server that has not been notified of anything: no document is open, and no lint has been
started. -/
def fresh (session : LintSession) (files : FileSystem) : Service where
  state := { session, files }

/-- The server after a step of the task at a place, and the messages sent. What is left of the
task stays in its place. -/
def replace (s : Service) (place : Nat) (r : StepResult) : Service × List ServerMessage :=
  ({ state := r.state
     tasks := s.tasks.take place ++ r.tasks ++ s.tasks.drop (place + 1) }, r.messages)

/-- The server after an event, and the messages sent. An event that concerns no task, or a task
that does not wait for it, does nothing. -/
def react (s : Service) : ServiceEvent → Service × List ServerMessage
  | .notified n =>
    let r := s.state.handle n
    ({ state := r.state, tasks := s.tasks ++ r.tasks }, r.messages)
  | .resumed place =>
    match s.tasks[place]?.bind fun task => task.step s.state with
    | some r => s.replace place r
    | none => (s, [])
  | .answered place answer =>
    match s.tasks[place]? with
    | some task => s.replace place (task.receive s.state answer)
    | none => (s, [])
  | .rewritten files => ({ s with state := { s.state with files } }, [])

/-- The server after an event. -/
def step (s : Service) (e : ServiceEvent) : Service :=
  (s.react e).1

/-- The messages that are sent at an event. -/
def messages (s : Service) (e : ServiceEvent) : List ServerMessage :=
  (s.react e).2

/-- The server after some events. -/
def run (s : Service) (events : List ServiceEvent) : Service :=
  events.foldl step s

/-- The messages that are sent in the course of some events. -/
def sent : Service → List ServiceEvent → List ServerMessage
  | _, [] => []
  | s, e :: events => s.messages e ++ (s.step e).sent events

/-- The snapshot of an open document. -/
def snapshot? (s : Service) (uri : Uri) : Option Snapshot :=
  s.state.documents.snapshot? uri

@[simp] theorem snapshot?_fresh (session : LintSession) (files : FileSystem) (uri : Uri) :
    (fresh session files).snapshot? uri = none := rfl

@[simp] theorem run_nil (s : Service) : s.run [] = s := rfl

@[simp] theorem run_append (s : Service) (first more : List ServiceEvent) :
    s.run (first ++ more) = (s.run first).run more :=
  List.foldl_append

@[simp] theorem run_singleton (s : Service) (e : ServiceEvent) : s.run [e] = s.step e := rfl

theorem sent_append (s : Service) (first more : List ServiceEvent) :
    s.sent (first ++ more) = s.sent first ++ (s.run first).sent more := by
  induction first generalizing s with
  | nil => rfl
  | cons e first ih =>
    rw [List.cons_append, sent, sent, ih, List.append_assoc]
    rfl

@[simp] theorem sent_singleton (s : Service) (e : ServiceEvent) : s.sent [e] = s.messages e := by
  rw [sent, sent, List.append_nil]

theorem run_concat (s : Service) (events : List ServiceEvent) (e : ServiceEvent) :
    s.run (events ++ [e]) = (s.run events).step e := by
  rw [run_append, run_singleton]

theorem sent_concat (s : Service) (events : List ServiceEvent) (e : ServiceEvent) :
    s.sent (events ++ [e]) = s.sent events ++ (s.run events).messages e := by
  rw [sent_append, sent_singleton]

@[simp] theorem snapshot?_step_notified (s : Service) (n : Notification) (uri : Uri) :
    (s.step (.notified n)).snapshot? uri =
      (s.state.handle n).state.documents.snapshot? uri := rfl

@[simp] theorem tasks_step_notified (s : Service) (n : Notification) :
    (s.step (.notified n)).tasks = s.tasks ++ (s.state.handle n).tasks := rfl

@[simp] theorem messages_notified (s : Service) (n : Notification) :
    s.messages (.notified n) = (s.state.handle n).messages := rfl

end Service

/-! ### Moves of a task -/

namespace LintTask

/-- **What one step of a task can be**, with the answer of the checker if it takes one. -/
inductive Move (task : LintTask) (s : ServerState) :
    Option (Except SystemError RawResult) → StepResult → Prop
  /-- The document is not open, which ends the task. -/
  | missed (hstage : task.stage = .spawned) (hclosed : s.documents.snapshot? task.uri = none) :
      Move task s none { state := s }
  | noted {before : Snapshot} (hstage : task.stage = .spawned)
      (hopen : s.documents.snapshot? task.uri = some before) :
      Move task s none { state := s, tasks := [{ task with stage := .noted before }] }
  | begun {before : Snapshot} {lint : Lint} {session : LintSession} {files : FileSystem}
      (hstage : task.stage = .noted before)
      (hlint : s.session.begin s.files (s.documents.view task.uri task.path) =
        (some lint, session, files)) :
      Move task s none { state := { s with session, files }
                         tasks := [{ task with stage := .linting before lint }] }
  | received {before : Snapshot} {lint : Lint} (hstage : task.stage = .linting before lint)
      (answer : Except SystemError RawResult) :
      Move task s (some answer)
        { state := { s with files := (lint.receive s.files answer).2 }
          tasks := [{ task with stage := .linting before (lint.receive s.files answer).1 }] }
  /-- The lint has findings, and the document has the text that it saw. -/
  | agreed {before : Snapshot} {lint : Lint} {findings : List Diagnostic}
      (hstage : task.stage = .linting before lint)
      (hchecked : lint.stage = .checked (.ok findings))
      (hcurrent : lint.isCurrent (s.documents.view task.uri task.path) = true) :
      Move task s none { state := s, tasks := [{ task with stage := .compared before findings }] }
  /-- The document has another text than the lint saw, or none. -/
  | dropped {before : Snapshot} {lint : Lint} {findings : List Diagnostic}
      (hstage : task.stage = .linting before lint)
      (hchecked : lint.stage = .checked (.ok findings))
      (hother : lint.isCurrent (s.documents.view task.uri task.path) = false) :
      Move task s none { state := s }
  | failed {before : Snapshot} {lint : Lint} {e : LintError}
      (hstage : task.stage = .linting before lint) (hchecked : lint.stage = .checked (.error e)) :
      Move task s none { state := s, messages := [.log .error ("mypy-lint: " ++ e.message)] }
  | published {before : Snapshot} {findings : List Diagnostic}
      (hstage : task.stage = .compared before findings)
      (hsame : s.documents.snapshot? task.uri = some before) :
      Move task s none
        { state := s
          messages := [.publish task.uri
            (findings.map (PublishedDiagnostic.ofDiagnostic (SourceLines.ofText before.text)))
            (some before.version)] }
  /-- The document is not what the task noted any more. -/
  | outdated {before : Snapshot} {findings : List Diagnostic}
      (hstage : task.stage = .compared before findings)
      (hother : s.documents.snapshot? task.uri ≠ some before) :
      Move task s none { state := s }

variable {task : LintTask} {s : ServerState} {r : StepResult}
  {answer? : Option (Except SystemError RawResult)}

/-- The step of a task is one of its moves. -/
theorem move_of_step (h : task.step s = some r) : task.Move s none r := by
  rw [step] at h
  split at h
  · next hstage =>
    obtain rfl := Option.some.inj h
    rw [note]
    split
    · next before hopen => exact .noted hstage hopen
    · next hclosed => exact .missed hstage hclosed
  · next before hstage =>
    obtain rfl := Option.some.inj h
    -- A document of the store has a path, so its lint begins.
    have hbegin : ∃ lint session files, s.session.begin s.files
        (s.documents.view task.uri task.path) = (some lint, session, files) := ⟨_, _, _, rfl⟩
    obtain ⟨lint, session, files, hlint⟩ := hbegin
    rw [begin, hlint]
    exact .begun hstage hlint
  · next before lint hstage =>
    split at h
    · simp at h
    · next findings hchecked =>
      obtain rfl := Option.some.inj h
      rw [compare, Lint.conclude, hchecked]
      cases findings with
      | error e => exact .failed hstage hchecked
      | ok findings =>
        cases hcurrent : lint.isCurrent (s.documents.view task.uri task.path) with
        | true => exact .agreed hstage hchecked hcurrent
        | false => exact .dropped hstage hchecked hcurrent
  · next before findings hstage =>
    obtain rfl := Option.some.inj h
    rw [publish]
    split
    · next hsame =>
      exact .published hstage ((DocumentStore.isUnchangedSince_iff _ _ _).mp hsame)
    · next hother =>
      exact .outdated hstage fun h => hother ((DocumentStore.isUnchangedSince_iff _ _ _).mpr h)

/-- Taking an answer of the checker is a move, or nothing for a task that waits for none. -/
theorem move_of_receive (task : LintTask) (s : ServerState)
    (answer : Except SystemError RawResult) :
    task.Move s (some answer) (task.receive s answer) ∨
      task.receive s answer = { state := s, tasks := [task] } := by
  rw [receive]
  split
  · next before lint hstage => exact Or.inl (.received hstage answer)
  · exact Or.inr rfl

/-- No move changes the documents. -/
theorem Move.documents_eq (h : task.Move s answer? r) : r.state.documents = s.documents := by
  cases h <;> rfl

/-- A task that moves ends or goes on. -/
theorem Move.tasks_cases (h : task.Move s answer? r) :
    r.tasks = [] ∨ ∃ next, r.tasks = [next] := by
  cases h with
  | noted | begun | received | agreed => exact Or.inr ⟨_, rfl⟩
  | _ => exact Or.inl rfl

/-- A task that goes on is the lint of the same document. -/
theorem Move.document_eq (h : task.Move s answer? r) {next : LintTask} (hnext : next ∈ r.tasks) :
    next.uri = task.uri ∧ next.path = task.path := by
  cases h with
  | noted | begun | received | agreed =>
    obtain rfl := List.mem_singleton.mp hnext
    exact ⟨rfl, rfl⟩
  | _ => simp at hnext

/-- A task publishes at the end of its way, for the document that it has compared. -/
theorem Move.publish {uri : Uri} {diagnostics : List PublishedDiagnostic} {version : Option Int}
    (h : task.Move s answer? r) (hmem : .publish uri diagnostics version ∈ r.messages) :
    ∃ before findings, task.stage = .compared before findings ∧
      s.documents.snapshot? task.uri = some before ∧ uri = task.uri ∧
      diagnostics =
        findings.map (PublishedDiagnostic.ofDiagnostic (SourceLines.ofText before.text)) ∧
      version = some before.version := by
  cases h with
  | @published before findings hstage hsame =>
    obtain ⟨rfl, rfl, rfl⟩ := ServerMessage.publish.inj (List.mem_singleton.mp hmem)
    exact ⟨before, findings, hstage, hsame, rfl, rfl, rfl⟩
  | failed => simp at hmem
  | _ => simp at hmem

end LintTask

/-! ### Reactions to an event -/

/-- The notification that an event is, if it is one. -/
def ServiceEvent.notification? : ServiceEvent → Option Notification
  | .notified n => some n
  | _ => none

/-- The place of the task that an event is for, with the checker's answer if it brings one. -/
def ServiceEvent.turn? :
    ServiceEvent → Option (Nat × Option (Except SystemError RawResult))
  | .resumed place => some (place, none)
  | .answered place answer => some (place, some answer)
  | _ => none

theorem ServiceEvent.eq_resumed {e : ServiceEvent} {place : Nat}
    (h : e.turn? = some (place, none)) : e = .resumed place := by
  cases e <;> simp [turn?] at h
  rw [h]

theorem ServiceEvent.eq_answered {e : ServiceEvent} {place : Nat}
    {answer : Except SystemError RawResult} (h : e.turn? = some (place, some answer)) :
    e = .answered place answer := by
  cases e <;> simp [turn?] at h
  obtain ⟨rfl, rfl⟩ := h
  rfl

theorem ServiceEvent.notification?_of_turn? {e : ServiceEvent}
    {turn : Nat × Option (Except SystemError RawResult)} (h : e.turn? = some turn) :
    e.notification? = none := by
  cases e with
  | notified n => simp [turn?] at h
  | _ => rfl

theorem ServiceEvent.eq_notified_or (e : ServiceEvent) :
    (∃ n, e = .notified n) ∨ e.notification? = none := by
  cases e with
  | notified n => exact Or.inl ⟨n, rfl⟩
  | _ => exact Or.inr rfl

namespace Service

/-- **What an event can do to a server at work.** -/
inductive Reaction (s : Service) : ServiceEvent → Service → List ServerMessage → Prop
  | handled (n : Notification) :
      Reaction s (.notified n)
        ⟨(s.state.handle n).state, s.tasks ++ (s.state.handle n).tasks⟩ (s.state.handle n).messages
  /-- One task moves. -/
  | moved {e : ServiceEvent} {left right : List LintTask} {task : LintTask} {r : StepResult}
      {answer? : Option (Except SystemError RawResult)}
      (hturn : e.turn? = some (left.length, answer?)) (htasks : s.tasks = left ++ task :: right)
      (hmove : task.Move s.state answer? r) :
      Reaction s e ⟨r.state, left ++ r.tasks ++ right⟩ r.messages
  /-- Nothing happens to the documents and to the tasks. -/
  | idled {e : ServiceEvent} (hevent : e.notification? = none) (files : FileSystem) :
      Reaction s e { s with state := { s.state with files } } []

variable (s : Service)

theorem eq_take_append_drop {place : Nat} {task : LintTask} (h : s.tasks[place]? = some task) :
    s.tasks = s.tasks.take place ++ task :: s.tasks.drop (place + 1) ∧
      (s.tasks.take place).length = place := by
  obtain ⟨hlt, rfl⟩ := List.getElem?_eq_some_iff.mp h
  rw [← List.drop_eq_getElem_cons hlt, List.take_append_drop]
  exact ⟨rfl, List.length_take_of_le (Nat.le_of_lt hlt)⟩

/-- An event has one of the reactions. -/
theorem reaction (e : ServiceEvent) : s.Reaction e (s.step e) (s.messages e) := by
  rw [step, messages]
  cases e with
  | notified n => exact .handled n
  | resumed place =>
    rw [react]
    split
    · next r hstep =>
      obtain ⟨task, htask, hstep⟩ := Option.bind_eq_some_iff.mp hstep
      obtain ⟨htasks, hplace⟩ := s.eq_take_append_drop htask
      exact .moved (by rw [hplace]; rfl) htasks (LintTask.move_of_step hstep)
    · exact .idled rfl s.state.files
  | answered place answer =>
    rw [react]
    split
    · next task htask =>
      obtain ⟨htasks, hplace⟩ := s.eq_take_append_drop htask
      obtain hmove | hstay := LintTask.move_of_receive task s.state answer
      · exact .moved (by rw [hplace]; rfl) htasks hmove
      · have hsame : s.replace place (task.receive s.state answer) = (s, []) := by
          rw [replace, hstay]
          simp only [List.append_assoc, List.singleton_append, ← htasks]
        rw [hsame]
        exact .idled rfl s.state.files
    · exact .idled rfl s.state.files
  | rewritten files => exact .idled rfl files

namespace Reaction

variable {s s' : Service} {e : ServiceEvent} {messages : List ServerMessage}

/-- Only notifications change the documents. -/
theorem snapshot?_eq (h : s.Reaction e s' messages) (he : e.notification? = none) (uri : Uri) :
    s'.snapshot? uri = s.snapshot? uri := by
  cases h with
  | handled n => simp [ServiceEvent.notification?] at he
  | moved hturn htasks hmove => exact congrArg (DocumentStore.snapshot? · uri) hmove.documents_eq
  | idled hevent files => rfl

/-- A task that has been there is there, or it has moved, and what is left of it is there. -/
theorem stays_or_moves (h : s.Reaction e s' messages) {task : LintTask} (hmem : task ∈ s.tasks) :
    task ∈ s'.tasks ∨
      ∃ place answer? r, e.turn? = some (place, answer?) ∧ s.tasks[place]? = some task ∧
        task.Move s.state answer? r ∧ r.tasks ⊆ s'.tasks ∧ r.messages = messages := by
  cases h with
  | handled n => exact Or.inl (List.mem_append_left _ hmem)
  | @moved _ left right old r answer? hturn htasks hmove =>
    rw [htasks] at hmem
    obtain hleft | hrest := List.mem_append.mp hmem
    · exact Or.inl (List.mem_append_left _ (List.mem_append_left _ hleft))
    · obtain rfl | hright := List.mem_cons.mp hrest
      · refine Or.inr ⟨left.length, answer?, r, hturn, ?_, hmove, ?_, rfl⟩
        · rw [htasks, List.getElem?_append_right (Nat.le_refl _), Nat.sub_self,
            List.getElem?_cons_zero]
        · exact fun next hnext => List.mem_append_left _ (List.mem_append_right _ hnext)
      · exact Or.inl (List.mem_append_right _ hright)
  | idled hevent files => exact Or.inl hmem

/-- Without a notification at most one list is published for a document, and with a version. -/
theorem publications_cases (h : s.Reaction e s' messages) (he : e.notification? = none)
    (uri : Uri) :
    publications uri messages = [] ∨
      ∃ diagnostics version, publications uri messages = [(diagnostics, some version)] := by
  cases h with
  | handled n => simp [ServiceEvent.notification?] at he
  | @moved _ left right task r _ hturn htasks hmove =>
    cases hmove with
    | @published before findings hstage hsame =>
      by_cases habout : task.uri = uri
      · refine Or.inr ⟨findings.map (.ofDiagnostic (.ofText before.text)), before.version, ?_⟩
        simp [publications, ServerMessage.publication?, habout]
      · exact Or.inl (by simp [publications, ServerMessage.publication?, habout])
    | _ => exact Or.inl rfl
  | idled hevent files => exact Or.inl rfl

/-- What is published without a notification comes from a task that has compared the document:
it is for the text and the version that the store has. -/
theorem exists_compared (h : s.Reaction e s' messages) (he : e.notification? = none) {uri : Uri}
    {diagnostics : List PublishedDiagnostic} {version : Option Int}
    (hmem : .publish uri diagnostics version ∈ messages) :
    ∃ task ∈ s.tasks, ∃ before findings, task.uri = uri ∧
      task.stage = .compared before findings ∧ s.snapshot? uri = some before ∧
      diagnostics =
        findings.map (PublishedDiagnostic.ofDiagnostic (SourceLines.ofText before.text)) ∧
      version = some before.version := by
  cases h with
  | handled n => simp [ServiceEvent.notification?] at he
  | @moved _ left right task r _ hturn htasks hmove =>
    obtain ⟨before, findings, hstage, hsame, rfl, hdiagnostics, hversion⟩ := hmove.publish hmem
    have htask : task ∈ s.tasks := by
      rw [htasks]
      exact List.mem_append_right left List.mem_cons_self
    exact ⟨task, htask, before, findings, rfl, hstage, hsame, hdiagnostics, hversion⟩
  | idled hevent files => simp at hmem

end Reaction

/-- A document stays as it is at an event that is no notification. -/
theorem snapshot?_run_concat (start : Service) (events : List ServiceEvent) {e : ServiceEvent}
    (he : e.notification? = none) (uri : Uri) :
    (start.run (events ++ [e])).snapshot? uri = (start.run events).snapshot? uri := by
  rw [run_concat]
  exact ((start.run events).reaction e).snapshot?_eq he uri

end Service

end LintHost
