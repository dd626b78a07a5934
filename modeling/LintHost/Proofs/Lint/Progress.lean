import LintHost.Proofs.Lint.Check

/-!
# How far a lint has come

A lint that is under way is handed on from moment to moment, while the files, the settings and the
document go on without it. `LintHost.Workspace.Lints` says what such a lint may be: it waits for the
run that was prepared when it began, or it has what the check of its target comes to with an answer
that was given to that run. In both cases it is the lint of the target that it began with, in the
workspace that it began in.

The two steps of a lint keep to this (`LintHost.Workspace.lints_of_begin`,
`LintHost.Workspace.Lints.receive`), so findings can be traced back to the moment at which the lint
read its document.
-/

namespace LintHost

/-- The checker of which the answer is known. -/
def Checker.answering (answer : Except SystemError RawResult) : Checker Unit :=
  fun _ _ _ => (answer, ())

namespace Workspace

variable (w : Workspace Unit) (given : Invocation → Except SystemError RawResult → Prop)
  (target : CheckTarget)

/-- **What a check of a target comes to**, where a run of the checker gets one of the answers that
are given for it. -/
def ComesTo (findings : Except LintError (List Diagnostic)) : Prop :=
  ∃ answer, (∀ files invocation, w.prepared target = .ok (files, invocation) →
    given invocation answer) ∧ (w.check (.answering answer) target).1 = findings

/-- **How far a lint of a target may have come** that began in a workspace. -/
inductive Lints : Lint → Prop
  | running {files : FileSystem} {invocation : Invocation}
      (hprepared : w.prepared target = .ok (files, invocation)) :
      Lints ⟨target.path, .ofText target.content, .running invocation⟩
  | checked {findings : Except LintError (List Diagnostic)}
      (hfindings : w.ComesTo given target findings) :
      Lints ⟨target.path, .ofText target.content, .checked findings⟩

variable {w given target}

theorem ComesTo.mono {more : Invocation → Except SystemError RawResult → Prop}
    {findings : Except LintError (List Diagnostic)} (h : w.ComesTo given target findings)
    (hmore : ∀ invocation answer, given invocation answer → more invocation answer) :
    w.ComesTo more target findings := by
  obtain ⟨answer, hgiven, hcheck⟩ := h
  exact ⟨answer, fun files invocation hprepared => hmore _ _ (hgiven files invocation hprepared),
    hcheck⟩

/-- Where no run has two answers, a check comes to one thing. -/
theorem ComesTo.unique {first second : Except LintError (List Diagnostic)}
    (hgiven : ∀ invocation answer other, given invocation answer → given invocation other →
      answer = other)
    (h₁ : w.ComesTo given target first) (h₂ : w.ComesTo given target second) : first = second := by
  obtain ⟨answer, hanswer, rfl⟩ := h₁
  obtain ⟨other, hother, rfl⟩ := h₂
  cases hprepared : w.prepared target with
  | error findings =>
    -- Neither check asks the checker.
    rw [check, hprepared, check, hprepared]
  | ok run =>
    rw [hgiven run.2 answer other (hanswer run.1 run.2 hprepared) (hother run.1 run.2 hprepared)]

/-- A lint begins as a lint of its document. -/
theorem lints_of_begin {doc : DocumentView} {path : Path} (hpath : doc.path = some path)
    {lint : Lint} {session : LintSession} {files : FileSystem}
    (h : w.session.begin w.files doc = (some lint, session, files)) :
    w.Lints given (doc.target path) lint := by
  rw [begin_eq w hpath] at h
  cases hprepared : w.prepared (doc.target path) with
  | error findings =>
    -- Without a run the findings do not depend on the checker.
    have hcheck : (w.check (.answering (.ok {})) (doc.target path)).1 = findings := by
      rw [check, hprepared]
    rw [hprepared] at h
    obtain rfl := Option.some.inj (Prod.mk.inj h).1
    exact .checked ⟨.ok {}, by simp [hprepared], hcheck⟩
  | ok run =>
    rw [hprepared] at h
    obtain rfl := Option.some.inj (Prod.mk.inj h).1
    exact .running hprepared

variable {lint : Lint}

theorem Lints.mono {more : Invocation → Except SystemError RawResult → Prop}
    (h : w.Lints given target lint)
    (hmore : ∀ invocation answer, given invocation answer → more invocation answer) :
    w.Lints more target lint := by
  cases h with
  | running hprepared => exact .running hprepared
  | checked hfindings => exact .checked (hfindings.mono hmore)

/-- With the answer to the run that it waits for it is a lint of the same target. -/
theorem Lints.receive (h : w.Lints given target lint) (files : FileSystem)
    {answer : Except SystemError RawResult}
    (hanswer : ∀ invocation, lint.stage = .running invocation → given invocation answer) :
    w.Lints given target (lint.receive files answer).1 := by
  cases h with
  | @running _ invocation hprepared =>
    refine .checked ⟨answer, fun _ _ hrun => ?_, ?_⟩
    · obtain ⟨-, rfl⟩ := Prod.mk.inj (Except.ok.inj (hprepared.symm.trans hrun))
      exact hanswer _ rfl
    · rw [check, hprepared]
      rfl
  | checked hfindings => exact .checked hfindings

/-- The findings of a lint are what the check of its target comes to. -/
theorem Lints.comesTo {findings : Except LintError (List Diagnostic)}
    (h : w.Lints given target lint) (hstage : lint.stage = .checked findings) :
    w.ComesTo given target findings := by
  cases h with
  | running hprepared => simp at hstage
  | checked hfindings => exact LintStage.checked.inj hstage ▸ hfindings

/-- A lint has the lines of its target. -/
theorem Lints.lines_eq (h : w.Lints given target lint) : lint.lines = .ofText target.content := by
  cases h <;> rfl

end Workspace

end LintHost
