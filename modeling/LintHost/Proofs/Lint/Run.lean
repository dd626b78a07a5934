import LintHost.Proofs.Lint.Precedence

/-!
# Lints in the course of a session

A session goes on for many steps: files change, settings arrive, the finder is told to forget
what it found, documents are linted. This file keeps the account of the calls that are made and
of the answers that are used up on the way (`LintHost.Workspace.checker_run`): the answers go to
the calls one by one and in order, so the call after `n` others is given the `n`th answer,
counted from 0, and one that finds no answer is given that of a checker that prints nothing.

With the account in hand, `LintHost.Workspace.run_verdict` says what any lint in any session
comes to.
-/

namespace LintHost

/-- A step of a session. -/
inductive SessionStep where
  /-- The files become others. -/
  | files (fs : FileSystem)
  /-- New settings arrive; a value that is no settings is ignored. -/
  | settings (value : Json)
  /-- The finder forgets what it has found. -/
  | invalidate
  /-- A document is linted, with the given events while the checker runs. -/
  | lint (doc : DocumentView) (during : List EditorEvent)
deriving Inhabited

/-- After some calls a script has used up as many answers. -/
theorem Script.foldl_after (script : Script) (calls : List Call) :
    calls.foldl Script.after script =
      ⟨script.responses.drop calls.length, script.calls ++ calls⟩ := by
  induction calls generalizing script with
  | nil => simp
  | cons call calls ih =>
    rw [List.foldl_cons, ih, after, List.length_cons, List.append_assoc, List.singleton_append,
      ← List.drop_one, List.drop_drop, Nat.add_comm]

namespace Workspace

/-! ### Steps -/

/-- The workspace after one step. -/
def step (w : Workspace Script) : SessionStep → Workspace Script
  | .files fs => { w with files := fs }
  | .settings value =>
    { w with session := { w.session with settings := (w.session.settings.update value).2 } }
  | .invalidate => { w with session := { w.session with finder := w.session.finder.invalidate } }
  | .lint doc during => (w.lint Script.run doc during).2.2

/-- The calls of one step: those of its check, if it is a lint of a document with a path. -/
def callsOfStep (w : Workspace Script) : SessionStep → List Call
  | .lint doc _ =>
    match doc.path with
    | some path => w.calls (doc.target path)
    | none => []
  | _ => []

/-- A check adds its calls to the script. -/
theorem checker_check (w : Workspace Script) (target : CheckTarget) :
    (w.check Script.run target).2.checker = (w.calls target).foldl Script.after w.checker := by
  rw [check, calls]
  cases w.prepared target with
  | error findings => rfl
  | ok run => simp only [Script.run_eq, List.foldl_cons, List.foldl_nil]

/-- A step adds its calls to the script, whatever becomes of the document meanwhile. -/
theorem checker_step (w : Workspace Script) (s : SessionStep) :
    (w.step s).checker = (w.callsOfStep s).foldl Script.after w.checker := by
  cases s with
  | lint doc during =>
    rw [step, callsOfStep]
    cases hpath : doc.path with
    | none => rw [lint_of_path_eq_none Script.run w hpath]; rfl
    | some path =>
      rw [lint_eq Script.run w hpath]
      exact checker_check w _
  | files fs => rfl
  | settings value => rfl
  | invalidate => rfl

/-! ### Runs -/

/-- The workspace after some steps. -/
def run (w : Workspace Script) (steps : List SessionStep) : Workspace Script :=
  steps.foldl step w

/-- The calls of some steps. -/
def callsOfRun (w : Workspace Script) : List SessionStep → List Call
  | [] => []
  | s :: steps => w.callsOfStep s ++ (w.step s).callsOfRun steps

/-- **The account of a run**: all its calls have been recorded, and each has used up an
answer. -/
theorem checker_run (w : Workspace Script) (steps : List SessionStep) :
    (w.run steps).checker =
      ⟨w.checker.responses.drop (w.callsOfRun steps).length,
        w.checker.calls ++ w.callsOfRun steps⟩ := by
  -- Told call by call, the account of the first step and that of the others simply follow.
  rw [← Script.foldl_after]
  induction steps generalizing w with
  | nil => rfl
  | cons s steps ih =>
    rw [run, List.foldl_cons, callsOfRun, List.foldl_append, ← checker_step]
    exact ih (w.step s)

/-- The answer to the next call of a run is the one after those that its calls have used up. -/
theorem answer_run (w : Workspace Script) (steps : List SessionStep) :
    (w.run steps).checker.answer =
      w.checker.responses[(w.callsOfRun steps).length]?.getD (.ok {}) := by
  rw [checker_run, Script.answer, List.head?_drop]

/-- **What a lint in the course of a session comes to.** After any steps from any workspace the
account is kept, and the next lint of a document that stays as it is comes to what its verdict
says and to nothing else. -/
theorem run_verdict (start : Workspace Script) (steps : List SessionStep) {doc : DocumentView}
    {during : List EditorEvent} (hstays : doc.Stays during) :
    let w := start.run steps
    let made := start.callsOfRun steps
    w.checker.calls = start.checker.calls ++ made ∧
      w.checker.responses = start.checker.responses.drop made.length ∧
      w.checker.answer = start.checker.responses[made.length]?.getD (.ok {}) ∧
      ∀ result script, w.Verdict doc result script ↔
        result = (w.lint Script.run doc during).1 ∧
          script = (w.lint Script.run doc during).2.2.checker := by
  refine ⟨?_, ?_, answer_run start steps, verdict_iff_lint hstays⟩
  · rw [checker_run]
  · rw [checker_run]

/-- The second lint of a session is given the second answer, a complaint, and nothing that the
first one was given. -/
theorem run_verdict_second_lint :
    let start : Workspace Script :=
      { session := { settings := ⟨{ mypyCommand := "mypy" }⟩ }
        files := { entries := [(["tmp"], .directory)] }
        checker := { responses := [.ok { stdout := "a.py:1: note: fine\n" },
          .ok { stderr := "boom" }, .error .notFound] } }
    let doc : DocumentView := ⟨some ⟨"/w/a.py"⟩, "x = 1\n", true, true⟩
    let steps : List SessionStep := [.lint doc [.append "y"], .files start.files, .invalidate]
    let during : List EditorEvent := [.setText "y", .setText "x = 1\n"]
    doc.Stays during ∧ (start.callsOfRun steps).length = 1 ∧
    (start.run steps).Verdict doc
      (.ok (some [.notice ⟨"/w/a.py"⟩ doc.text InvokeError.toolMessage "boom"]))
      ((start.run steps).lint Script.run doc during).2.2.checker := by
  intro start doc steps during
  have hstays : doc.Stays during := ⟨rfl, rfl, rfl⟩
  have hlint : ((start.run steps).lint Script.run doc during).1 =
      .ok (some [.notice ⟨"/w/a.py"⟩ doc.text InvokeError.toolMessage "boom"]) :=
    Lint.eq_ok_of_toOption (by decide +kernel)
  obtain ⟨-, -, -, hverdict⟩ := run_verdict start steps hstays
  exact ⟨hstays, by decide +kernel, (hverdict _ _).mpr ⟨hlint.symm, rfl⟩⟩

end Workspace

end LintHost
