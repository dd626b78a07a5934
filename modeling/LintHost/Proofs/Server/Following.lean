import LintHost.Proofs.Server.Interleaving

/-!
# Following a task

Tasks have no names, and many of them may be about one document. What tells them apart is their
place in the list of tasks, and that changes in the course of events: a task that comes to its end
leaves its place to those behind it, while new tasks are put at the end. So a task that is meant at
one moment is found at a later one by following its place, `LintHost.Service.follow`, and it is still
the lint of its document there (`LintHost.Service.document_eq_of_follow`). What an event can do to
the tasks and their places is said once, by `LintHost.Service.shift`.

This is needed for the answers of the checker. Two runs of it may be alike in everything but the
text that they find on disk, so a run does not tell which task an answer is for, and an answer
belongs to a lint only if the task of this lint gets it (`LintHost.Service.Answered`). A task gets
no more than one (`LintHost.Service.Answered.unique`).
-/

namespace LintHost

/-! ### Places -/

namespace Service

variable (s : Service)

/-- The place in a list of what was at a place before, after something has been taken out: what is
behind that moves up. -/
def placeWithout (gone place : Nat) : Option Nat :=
  if place = gone then none else some (if gone < place then place - 1 else place)

theorem exists_placeWithout (gone now : Nat) : ∃ place, placeWithout gone place = some now := by
  by_cases hbefore : now < gone
  · exact ⟨now, by rw [placeWithout, if_neg (Nat.ne_of_lt hbefore), if_neg (Nat.lt_asymm hbefore)]⟩
  · exact ⟨now + 1, by rw [placeWithout, if_neg (by omega), if_pos (by omega), Nat.add_sub_cancel]⟩

/-- What has not been taken out of a list is where its place has come to. -/
theorem getElem?_eraseIdx_of_placeWithout {α : Type} (l : List α) {gone place now : Nat}
    (h : placeWithout gone place = some now) : (l.eraseIdx gone)[now]? = l[place]? := by
  rw [placeWithout] at h
  split at h
  · simp at h
  · next hother =>
    obtain rfl := Option.some.inj h
    rw [List.getElem?_eraseIdx]
    split
    · next hbehind => rw [if_neg (by omega), Nat.sub_add_cancel (by omega)]
    · next hbefore => rw [if_pos (by omega)]

/-- **The place of a task after an event**, if the task has not come to its end. New tasks are put
at the end of the list, so only a task that leaves it moves others. -/
def placeAfter (s : Service) (e : ServiceEvent) (place : Nat) : Option Nat :=
  match e.turn? with
  | some (turn, _) =>
    if (s.step e).tasks.length < s.tasks.length then placeWithout turn place else some place
  | none => some place

/-- **The place of a task after some events**, if the task has not come to its end. -/
def follow : Service → List ServiceEvent → Nat → Option Nat
  | _, [], place => some place
  | s, e :: events, place => (s.placeAfter e place).bind ((s.step e).follow events)

theorem follow_append (s : Service) (first more : List ServiceEvent) (place : Nat) :
    s.follow (first ++ more) place = (s.follow first place).bind ((s.run first).follow more) := by
  induction first generalizing s place with
  | nil => rfl
  | cons e first ih =>
    rw [List.cons_append, follow, follow, Option.bind_assoc]
    exact congrArg _ (funext (ih (s.step e)))

@[simp] theorem follow_singleton (s : Service) (e : ServiceEvent) :
    s.follow [e] = s.placeAfter e :=
  funext fun _ => Option.bind_fun_some _

variable {s} {e : ServiceEvent}

/-- What is left of a task after a step is in its place. -/
theorem tasks_replace {place : Nat} (hlt : place < s.tasks.length) {r : StepResult}
    {next : LintTask} (hnext : r.tasks = [next]) :
    (s.replace place r).1.tasks = s.tasks.set place next := by
  rw [List.set_eq_take_append_cons_drop, if_pos hlt, replace, hnext, List.append_assoc,
    List.singleton_append]

theorem placeAfter_of_length_le (h : s.tasks.length ≤ (s.step e).tasks.length) :
    s.placeAfter e = some := by
  funext place
  rw [placeAfter]
  cases e.turn? with
  | none => rfl
  | some turn => exact if_neg (Nat.not_lt.mpr h)

theorem placeAfter_of_length_lt {turn : Nat} {answer? : Option (Except SystemError RawResult)}
    (hturn : e.turn? = some (turn, answer?)) (h : (s.step e).tasks.length < s.tasks.length) :
    s.placeAfter e = placeWithout turn := by
  funext place
  rw [placeAfter, hturn]
  exact if_pos h

variable (s e)

/-- **What an event can do to the tasks**, with what it does to their places. -/
inductive Shift : List LintTask → (Nat → Option Nat) → Prop
  /-- No task moves, and some may be started. -/
  | joined {started : List LintTask} (hstarted : ∀ task ∈ started, task.Starts) :
      Shift (s.tasks ++ started) some
  | advanced {turn : Nat} {answer? : Option (Except SystemError RawResult)} {task next : LintTask}
      {r : StepResult} (hturn : e.turn? = some (turn, answer?))
      (htask : s.tasks[turn]? = some task) (hmove : task.Move s.state answer? r)
      (hnext : r.tasks = [next]) : Shift (s.tasks.set turn next) some
  | ended {turn : Nat} {answer? : Option (Except SystemError RawResult)}
      (hturn : e.turn? = some (turn, answer?)) (hlt : turn < s.tasks.length) :
      Shift (s.tasks.eraseIdx turn) (placeWithout turn)

/-- An event has one of the shifts. -/
theorem shift : s.Shift e (s.step e).tasks (s.placeAfter e) := by
  have hreaction := s.reaction e
  generalize hstep : s.step e = s' at hreaction
  generalize s.messages e = messages at hreaction
  cases hreaction with
  | handled n =>
    rw [placeAfter_of_length_le (by rw [hstep, List.length_append]; exact Nat.le_add_right _ _)]
    exact .joined fun task hmem => ServerState.starts_of_mem_handle hmem
  | @moved _ left right task r answer? hturn htasks hmove =>
    have htask : s.tasks[left.length]? = some task := by simp [htasks]
    obtain hnone | ⟨next, hnext⟩ := hmove.tasks_cases
    · have hleft : left ++ r.tasks ++ right = s.tasks.eraseIdx left.length := by
        simp [hnone, htasks, List.eraseIdx_append_of_length_le]
      rw [placeAfter_of_length_lt hturn (by simp [hstep, hnone, htasks]), hleft]
      exact .ended hturn (List.getElem?_eq_some_iff.mp htask).1
    · have hleft : left ++ r.tasks ++ right = s.tasks.set left.length next := by
        simp [hnext, htasks]
      rw [placeAfter_of_length_le (by simp [hstep, hnext, htasks]), hleft]
      exact .advanced hturn htask hmove hnext
  | idled hevent files =>
    have hstay : s.Shift e (s.tasks ++ []) some := .joined (List.forall_mem_nil _)
    rw [List.append_nil] at hstay
    rw [placeAfter_of_length_le (by simp [hstep])]
    exact hstay

namespace Shift

variable {s e} {tasks : List LintTask} {after : Nat → Option Nat}

/-- A task has just been started, or was at a place before and is where it has come from there, as
it was or as what is left of it after a move. -/
theorem exists_before (h : s.Shift e tasks after) {now : Nat} {task : LintTask}
    (htask : tasks[now]? = some task) :
    task.Starts ∨ ∃ place old, s.tasks[place]? = some old ∧ after place = some now ∧
      (task = old ∨ ∃ answer? r, e.turn? = some (place, answer?) ∧
        old.Move s.state answer? r ∧ task ∈ r.tasks) := by
  cases h with
  | joined hstarted =>
    by_cases hnow : now < s.tasks.length
    · rw [List.getElem?_append_left hnow] at htask
      exact Or.inr ⟨now, task, htask, rfl, Or.inl rfl⟩
    · rw [List.getElem?_append_right (Nat.le_of_not_lt hnow)] at htask
      exact Or.inl (hstarted task (List.mem_of_getElem? htask))
  | @advanced turn answer? old next r hturn hold hmove hnext =>
    obtain rfl | hother := Decidable.eq_or_ne turn now
    · rw [List.getElem?_set_self (List.getElem?_eq_some_iff.mp hold).1] at htask
      obtain rfl := Option.some.inj htask
      refine Or.inr ⟨turn, old, hold, rfl, Or.inr ⟨answer?, r, hturn, hmove, ?_⟩⟩
      rw [hnext]
      exact List.mem_singleton_self _
    · rw [List.getElem?_set_ne hother] at htask
      exact Or.inr ⟨now, task, htask, rfl, Or.inl rfl⟩
  | @ended turn answer? hturn hlt =>
    obtain ⟨place, hplace⟩ := exists_placeWithout turn now
    rw [getElem?_eraseIdx_of_placeWithout _ hplace] at htask
    exact Or.inr ⟨place, task, htask, hplace, Or.inl rfl⟩

/-- A task that has not come to its end is where its place has come to, as it was or as what is left
of it after a move. -/
theorem exists_after (h : s.Shift e tasks after) {place now : Nat} {task : LintTask}
    (htask : s.tasks[place]? = some task) (hafter : after place = some now) :
    ∃ next, tasks[now]? = some next ∧ (next = task ∨ ∃ answer? r,
      e.turn? = some (place, answer?) ∧ task.Move s.state answer? r ∧ next ∈ r.tasks) := by
  cases h with
  | joined hstarted =>
    obtain rfl := Option.some.inj hafter
    rw [List.getElem?_append_left (List.getElem?_eq_some_iff.mp htask).1]
    exact ⟨task, htask, Or.inl rfl⟩
  | @advanced turn answer? old next r hturn hold hmove hnext =>
    obtain rfl := Option.some.inj hafter
    obtain rfl | hother := Decidable.eq_or_ne turn place
    · obtain rfl := Option.some.inj (hold.symm.trans htask)
      rw [List.getElem?_set_self (List.getElem?_eq_some_iff.mp hold).1]
      refine ⟨next, rfl, Or.inr ⟨answer?, r, hturn, hmove, ?_⟩⟩
      rw [hnext]
      exact List.mem_singleton_self _
    · rw [List.getElem?_set_ne hother]
      exact ⟨task, htask, Or.inl rfl⟩
  | ended => exact ⟨task, (getElem?_eraseIdx_of_placeWithout _ hafter).trans htask, Or.inl rfl⟩

end Shift

/-- **A task that is followed keeps what no move takes from a task.** -/
theorem exists_of_follow {P : LintTask → Prop}
    (hkeep : ∀ {task : LintTask} {state : ServerState}
      {answer? : Option (Except SystemError RawResult)} {r : StepResult} {next : LintTask},
      task.Move state answer? r → next ∈ r.tasks → P task → P next)
    {s : Service} {events : List ServiceEvent} {place now : Nat} {task : LintTask}
    (htask : s.tasks[place]? = some task) (hnow : s.follow events place = some now)
    (hP : P task) : ∃ next, (s.run events).tasks[now]? = some next ∧ P next := by
  induction events generalizing s place task with
  | nil =>
    obtain rfl := Option.some.inj hnow
    exact ⟨task, htask, hP⟩
  | cons e events ih =>
    obtain ⟨between, hafter, hnow⟩ := Option.bind_eq_some_iff.mp hnow
    obtain ⟨next, hnext, rfl | ⟨answer?, r, -, hmove, hleft⟩⟩ :=
      (s.shift e).exists_after htask hafter
    · exact ih hnext hnow hP
    · exact ih hnext hnow (hkeep hmove hleft hP)

/-- **A task that is followed stays the lint of its document.** -/
theorem document_eq_of_follow {s : Service} {events : List ServiceEvent} {place now : Nat}
    {task : LintTask} (htask : s.tasks[place]? = some task)
    (hnow : s.follow events place = some now) :
    ∃ next, (s.run events).tasks[now]? = some next ∧ next.uri = task.uri ∧
      next.path = task.path :=
  exists_of_follow (P := fun next => next.uri = task.uri ∧ next.path = task.path)
    (fun hmove hnext h =>
      ⟨(hmove.document_eq hnext).1.trans h.1, (hmove.document_eq hnext).2.trans h.2⟩)
    htask hnow ⟨rfl, rfl⟩

end Service

/-! ### The answer that a task gets -/

/-- Whether the lint of a task has begun and needs nothing of the checker any more. -/
def LintTask.isChecked (task : LintTask) : Bool :=
  match task.stage with
  | .linting _ lint =>
    match lint.stage with
    | .checked _ => true
    | .running _ => false
  | .compared _ _ => true
  | _ => false

theorem LintTask.waitsFor?_of_isChecked {task : LintTask} (h : task.isChecked = true) :
    task.waitsFor? = none := by
  rw [isChecked] at h
  rw [waitsFor?]
  split at h
  · next lint hstage =>
    simp only [hstage]
    split at h
    · next hchecked => rw [hchecked]
    · simp at h
  · next hstage => simp only [hstage]
  · simp at h

/-- With an answer a lint waits no more. -/
theorem Lint.exists_stage_receive (lint : Lint) (files : FileSystem)
    (answer : Except SystemError RawResult) :
    ∃ findings, (lint.receive files answer).1.stage = .checked findings := by
  rw [receive]
  split
  · exact ⟨_, rfl⟩
  · next findings hstage => exact ⟨findings, hstage⟩

/-- A lint does not come to wait again. -/
theorem LintTask.Move.isChecked {task : LintTask} {s : ServerState} {r : StepResult}
    {answer? : Option (Except SystemError RawResult)} (h : task.Move s answer? r) {next : LintTask}
    (hnext : next ∈ r.tasks) (hchecked : task.isChecked = true) : next.isChecked = true := by
  cases h with
  | noted hstage => simp [LintTask.isChecked, hstage] at hchecked
  | begun hstage => simp [LintTask.isChecked, hstage] at hchecked
  | @received before lint hstage answer =>
    obtain rfl := List.mem_singleton.mp hnext
    obtain ⟨findings, hfindings⟩ := lint.exists_stage_receive s.files answer
    simp [LintTask.isChecked, hfindings]
  | agreed =>
    obtain rfl := List.mem_singleton.mp hnext
    rfl
  | _ => simp at hnext

namespace Service

variable (start : Service) (events : List ServiceEvent)

/-- **Where a task comes to**: the one that is at a place after the early ones of some events is at
a place after all of them. -/
def Reaches (early : List ServiceEvent) (place now : Nat) : Prop :=
  ∃ between, events = early ++ between ∧ (start.run early).follow between place = some now

/-- **An answer to the checker's run of a task**, which is the one at a place after the early ones
of some events: in the course of them it waits for the run and gets the answer. -/
def Answered (early : List ServiceEvent) (place : Nat) (invocation : Invocation)
    (answer : Except SystemError RawResult) : Prop :=
  ∃ before now, before ++ [.answered now answer] <+: events ∧
    Reaches start before early place now ∧
    (start.run before).tasks[now]?.bind LintTask.waitsFor? = some invocation

variable {start events} {e : ServiceEvent} {early : List ServiceEvent} {place now : Nat}

theorem reaches_self (start : Service) (events : List ServiceEvent) (place : Nat) :
    Reaches start events events place place :=
  ⟨[], (List.append_nil events).symm, rfl⟩

theorem Reaches.append {next : Nat} (h : Reaches start events early place now)
    (hnext : (start.run events).placeAfter e now = some next) :
    Reaches start (events ++ [e]) early place next := by
  obtain ⟨between, rfl, hnow⟩ := h
  refine ⟨between ++ [e], List.append_assoc early between [e], ?_⟩
  rw [follow_append, hnow, follow_singleton, ← run_append]
  exact hnext

theorem Answered.append {invocation : Invocation} {answer : Except SystemError RawResult}
    (h : Answered start events early place invocation answer) (more : List ServiceEvent) :
    Answered start (events ++ more) early place invocation answer := by
  obtain ⟨before, now, hbefore, hwaits⟩ := h
  exact ⟨before, now, hbefore.trans (List.prefix_append events more), hwaits⟩

/-- A task that gets the answer that it waits for stays where it is, and waits no more. -/
theorem exists_isChecked_of_answered {s : Service} {invocation : Invocation}
    (hwaits : s.tasks[now]?.bind LintTask.waitsFor? = some invocation)
    (answer : Except SystemError RawResult) :
    s.placeAfter (.answered now answer) now = some now ∧
      ∃ next, (s.step (.answered now answer)).tasks[now]? = some next ∧ next.isChecked = true := by
  obtain ⟨task, htask, hwaits⟩ := Option.bind_eq_some_iff.mp hwaits
  obtain ⟨before, lint, hstage⟩ : ∃ before lint, task.stage = .linting before lint := by
    cases hstage : task.stage with
    | linting before lint => exact ⟨before, lint, rfl⟩
    | _ => simp [LintTask.waitsFor?, hstage] at hwaits
  have hlt : now < s.tasks.length := (List.getElem?_eq_some_iff.mp htask).1
  have hstep : (s.step (.answered now answer)).tasks = s.tasks.set now
      { task with stage := .linting before (lint.receive s.state.files answer).1 } := by
    rw [step, react, htask]
    exact tasks_replace hlt (by rw [LintTask.receive, hstage])
  refine ⟨?_, _, by rw [hstep, List.getElem?_set_self hlt], ?_⟩
  · rw [placeAfter_of_length_le (Nat.le_of_eq (by rw [hstep, List.length_set]))]
  · obtain ⟨findings, hfindings⟩ := lint.exists_stage_receive s.state.files answer
    simp [LintTask.isChecked, hfindings]

/-- A task that has got the answer that it waited for waits for nothing later. -/
theorem Reaches.waitsFor?_eq_none {before more : List ServiceEvent} {later : Nat}
    {invocation : Invocation} {answer : Except SystemError RawResult}
    (h : Reaches start before early place now)
    (hwaits : (start.run before).tasks[now]?.bind LintTask.waitsFor? = some invocation)
    (hlater : Reaches start (before ++ .answered now answer :: more) early place later) :
    (start.run (before ++ .answered now answer :: more)).tasks[later]?.bind
      LintTask.waitsFor? = none := by
  -- It waits no more right after the answer, and no move makes it wait again.
  obtain ⟨hplace, next, hnext, hchecked⟩ := exists_isChecked_of_answered hwaits answer
  obtain ⟨between, rfl, hnow⟩ := h
  obtain ⟨_, hsplit, hlater⟩ := hlater
  rw [List.append_assoc] at hsplit
  obtain rfl := List.append_cancel_left hsplit
  rw [follow_append, hnow, ← run_append, Option.bind_some, follow, hplace,
    Option.bind_some] at hlater
  obtain ⟨last, hlast, hdone⟩ := exists_of_follow (P := fun task => task.isChecked = true)
    (fun hmove hleft => hmove.isChecked hleft) hnext hlater hchecked
  rw [run_append, run, List.foldl_cons, ← run, hlast, Option.bind_some]
  exact LintTask.waitsFor?_of_isChecked hdone

/-- Two answers that a task waits for are the same if one of them does not come after the other. -/
theorem Reaches.eq_of_prefix {first second : List ServiceEvent} {now₁ now₂ : Nat}
    {invocation₁ invocation₂ : Invocation} {answer₁ answer₂ : Except SystemError RawResult}
    (h₁ : Reaches start first early place now₁) (h₂ : Reaches start second early place now₂)
    (hwaits₁ : (start.run first).tasks[now₁]?.bind LintTask.waitsFor? = some invocation₁)
    (hwaits₂ : (start.run second).tasks[now₂]?.bind LintTask.waitsFor? = some invocation₂)
    (hle : first ++ [.answered now₁ answer₁] <+: second ++ [.answered now₂ answer₂]) :
    invocation₁ = invocation₂ ∧ answer₁ = answer₂ := by
  obtain heq | ⟨more, rfl⟩ := List.prefix_concat_iff.mp hle
  · obtain ⟨rfl, hlast⟩ := List.append_inj' heq rfl
    obtain ⟨rfl, rfl⟩ := ServiceEvent.answered.inj (List.singleton_inj.mp hlast)
    exact ⟨Option.some.inj (hwaits₁.symm.trans hwaits₂), rfl⟩
  · rw [List.append_assoc, List.singleton_append] at h₂ hwaits₂
    exact nomatch (h₁.waitsFor?_eq_none hwaits₁ h₂).symm.trans hwaits₂

/-- **A task gets at most one answer**, in whatever way the others go on. -/
theorem Answered.unique {invocation₁ invocation₂ : Invocation}
    {answer₁ answer₂ : Except SystemError RawResult}
    (h₁ : Answered start events early place invocation₁ answer₁)
    (h₂ : Answered start events early place invocation₂ answer₂) :
    invocation₁ = invocation₂ ∧ answer₁ = answer₂ := by
  obtain ⟨first, now₁, hfirst, hreaches₁, hwaits₁⟩ := h₁
  obtain ⟨second, now₂, hsecond, hreaches₂, hwaits₂⟩ := h₂
  obtain hle | hle := List.prefix_or_prefix_of_prefix hfirst hsecond
  · exact hreaches₁.eq_of_prefix hreaches₂ hwaits₁ hwaits₂ hle
  · obtain ⟨hinvocation, hanswer⟩ := hreaches₂.eq_of_prefix hreaches₁ hwaits₂ hwaits₁ hle
    exact ⟨hinvocation.symm, hanswer.symm⟩

end Service

end LintHost
