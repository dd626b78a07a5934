import LintHost.Server.Protocol

/-!
# Exchanges

One message of the client and all that comes of it: the answer, the runs of the checker, and
the messages that the server sends until none of its lints is left. Other messages may come
while the checker runs. What the checker prints is held back until they have been delivered,
and the tasks that they start run only where the server has to wait. This is one of the orders
in which things can happen; the steps themselves know nothing of it.

A task always comes to its end, since every step leaves less to do, `LintTask.remaining`.
-/

namespace LintHost

/-! ### Tasks -/

/-- How many steps a task has left at most. -/
def LintTask.remaining (task : LintTask) : Nat :=
  match task.stage with
  | .spawned => 5
  | .noted _ => 4
  | .linting _ lint =>
    match lint.stage with
    | .running _ => 3
    | .checked _ => 2
  | .compared .. => 1

/-- A step leaves less to do. -/
theorem LintTask.remaining_lt_of_step {task next : LintTask} {s : ServerState} {r : StepResult}
    (h : task.step s = some r) (hn : next ∈ r.tasks) : next.remaining < task.remaining := by
  unfold LintTask.step at h
  split at h
  · obtain rfl := Option.some.inj h
    unfold LintTask.note at hn
    split at hn <;> simp at hn
    subst hn
    simp_all [LintTask.remaining]
  · obtain rfl := Option.some.inj h
    simp only [LintTask.begin, List.mem_map] at hn
    obtain ⟨lint, -, rfl⟩ := hn
    simp only [LintTask.remaining, *]
    split <;> omega
  · split at h
    · simp at h
    · obtain rfl := Option.some.inj h
      unfold LintTask.compare at hn
      split at hn <;> simp at hn
      subst hn
      simp_all [LintTask.remaining]
  · obtain rfl := Option.some.inj h
    unfold LintTask.publish at hn
    split at hn <;> simp at hn

/-- Takes the steps of a task until it ends or waits for the checker: the state, the task if
it waits, and the messages sent. -/
def LintTask.advance (task : LintTask) (s : ServerState) :
    ServerState × Option LintTask × List ServerMessage :=
  match h : task.step s with
  | none => (s, some task, [])
  | some r =>
    match hn : r.tasks with
    | [] => (r.state, none, r.messages)
    | next :: _ =>
      have : next.remaining < task.remaining := LintTask.remaining_lt_of_step h (by simp [hn])
      let (s, waiting, messages) := next.advance r.state
      (s, waiting, r.messages ++ messages)
termination_by task.remaining

/-! ### Exchanges -/

/-- An exchange under way: the tasks that have not run yet, those whose checker has started,
each with what it will have printed, and the answers and messages so far. -/
structure Exchange (σ : Type) where
  connection : Connection
  checker : σ
  queued : List LintTask := []
  running : List (LintTask × RawResult) := []
  answers : List Answer := []
  messages : List ServerMessage := []
  /-- How many messages have been sent since tasks last ran. -/
  unsent : Nat := 0
deriving Inhabited

namespace Exchange

variable {σ : Type}

/-- Lets a task go on; gives the task if it waits for the checker. -/
def advance (x : Exchange σ) (task : LintTask) : Option LintTask × Exchange σ :=
  let (server, waiting, messages) := task.advance x.connection.server
  (waiting, { x with
    connection := { x.connection with server }
    messages := x.messages ++ if x.connection.phase.isOpen then messages else [] })

/-- Ends the wait of a task and lets it go on to its end. -/
def receive (x : Exchange σ) (task : LintTask) (result : Except SystemError RawResult) :
    Exchange σ :=
  let r := task.receive x.connection.server result
  let x := { x with connection := { x.connection with server := r.state } }
  r.tasks.foldl (fun x task => (x.advance task).2) x

/-- Lets a new task go on until its checker has started; where it does not start the task
comes to its end. -/
def launch (checker : Checker σ) (x : Exchange σ) (task : LintTask) : Exchange σ :=
  let (waiting?, x) := x.advance task
  match waiting?.bind fun task => task.waitsFor?.map fun invocation => (task, invocation) with
  | none => x
  | some (task, invocation) =>
    match checker x.checker x.connection.server.files invocation.plan with
    | (.ok result, state) => { x with checker := state, running := x.running ++ [(task, result)] }
    | (.error cause, state) => { x with checker := state }.receive task (.error cause)

/-- Launches the tasks that have not run yet. -/
def launchQueued (checker : Checker σ) (x : Exchange σ) : Exchange σ :=
  x.queued.foldl (launch checker) { x with queued := [], unsent := 0 }

/-- Delivers a message; the tasks that it starts do not run yet. -/
def deliver (x : Exchange σ) (m : ClientMessage) : Exchange σ :=
  let d := x.connection.deliver m
  { x with
    connection := d.connection
    queued := x.queued ++ d.tasks
    answers := x.answers ++ [d.answer]
    messages := x.messages ++ d.messages
    unsent := x.unsent + d.messages.length }

/-- How many messages can be on their way to the client while nothing else runs. -/
def capacity : Nat := 1

/-- Delivers a message while checkers run. Earlier tasks get to run where the server waits:
before it goes on with a notification that makes it wait, and once its messages have to be
sent. -/
def interject (checker : Checker σ) (x : Exchange σ) (m : ClientMessage) : Exchange σ :=
  let waits := (x.connection.notification? m).any Notification.waits
  let x := (if waits then x.launchQueued checker else x).deliver m
  if capacity < x.unsent then x.launchQueued checker else x

/-- Lets all checkers finish. -/
def settle (x : Exchange σ) : Exchange σ :=
  x.running.foldl (fun x (task, result) => x.receive task (.ok result)) { x with running := [] }

end Exchange

/-- A whole exchange: a message, and those that come while the checker runs for it. -/
def Connection.exchange {σ : Type} (checker : Checker σ) (c : Connection) (state : σ)
    (m : ClientMessage) (during : List ClientMessage) : Exchange σ :=
  let x := ({ connection := c, checker := state : Exchange σ }.deliver m).launchQueued checker
  ((during.foldl (Exchange.interject checker) x).launchQueued checker).settle

end LintHost
