import LintHost.Session

/-!
# A lint is a check and what becomes of it

`LintHost.Workspace.lint` is told as it happens: a lint begins, the checker runs while the
editor goes on, the lint takes the result and is concluded. To say what a lint comes to, it
is taken apart in another way, into three things that do not depend on each other's insides:

* the **target**, which is all that a lint takes of its document
  (`LintHost.DocumentView.target`);
* the **check** of the target, which goes from the configuration to the findings as if there
  were no editor (`LintHost.Workspace.check`);
* the **settlement**, which reports findings that are still wanted and drops the others
  (`LintHost.Lint.settle`).

`LintHost.Workspace.lint_eq` says that a lint is these three put together, and what it leaves
behind: the document and the settings as the events in the editor have made them. Whatever is to
be shown of lints follows from it, and no proof opens `LintHost.Workspace.lint` again.
-/

namespace LintHost

/-- What a lint takes of a document when it starts. -/
def DocumentView.target (doc : DocumentView) (path : Path) : CheckTarget where
  path := path
  content := doc.text
  isModified := doc.isModified

/-! ### What events in the editor leave behind -/

/-- The document after some events. -/
def DocumentView.after (doc : DocumentView) (events : List EditorEvent) : DocumentView :=
  events.foldl (fun doc event => event.onDocument doc) doc

@[simp] theorem DocumentView.after_nil (doc : DocumentView) : doc.after [] = doc := rfl

/-- **A document that stays as it is** while some events happen: it is alive, and after them it
is alive with the same text. In between it may be neither. -/
structure DocumentView.Stays (doc : DocumentView) (events : List EditorEvent) : Prop where
  alive : doc.isAlive = true
  alive_after : (doc.after events).isAlive = true
  text_after : (doc.after events).text = doc.text

/-- The effect of an event on the settings. -/
def EditorEvent.onSettings : EditorEvent → SettingsStore → SettingsStore
  | .settings value, store => (store.update value).2
  | _, store => store

/-- The settings after some events. -/
def SettingsStore.after (store : SettingsStore) (events : List EditorEvent) : SettingsStore :=
  events.foldl (fun store event => event.onSettings store) store

/-- Of a session, events change nothing but the settings. -/
theorem EditorEvent.foldl_onSession (events : List EditorEvent) (session : LintSession) :
    events.foldl (fun session event => event.onSession session) session =
      { session with settings := session.settings.after events } := by
  induction events generalizing session with
  | nil => rfl
  | cons event events ih =>
    rw [List.foldl_cons, ih, SettingsStore.after, SettingsStore.after, List.foldl_cons]
    cases event <;> rfl

/-! ### What becomes of findings -/

/-- What becomes of the findings of a check: they are reported if they are still wanted, while
an error is reported in any case. -/
def Lint.settle (findings : Except LintError (List Diagnostic)) (wanted : Bool) : LintResult :=
  match findings with
  | .error e => .error e
  | .ok ds => .ok (if wanted then some ds else none)

/-- Findings are reported exactly if there are any and they are wanted. -/
theorem Lint.settle_eq_some_iff {findings : Except LintError (List Diagnostic)} {wanted : Bool}
    {ds : List Diagnostic} :
    Lint.settle findings wanted = .ok (some ds) ↔ findings = .ok ds ∧ wanted = true := by
  cases findings <;> cases wanted <;> simp [Lint.settle]

/-- Findings can be compared where errors cannot: a result that gives findings is one without
an error. -/
theorem Lint.eq_ok_of_toOption {ε α : Type} {r : Except ε α} {a : α} (h : r.toOption = some a) :
    r = .ok a := by
  cases r with
  | error e => simp [Except.toOption] at h
  | ok b => exact congrArg Except.ok (Option.some.inj h)

/-- A lint whose check is over is settled by the document as it is now. -/
theorem Lint.conclude_checked (path : Path) (lines : SourceLines)
    (findings : Except LintError (List Diagnostic)) (now : DocumentView) :
    (Lint.mk path lines (.checked findings)).conclude now =
      Lint.settle findings (now.isAlive && now.text == lines.text) := by
  cases findings <;> rfl

namespace Workspace

variable {σ : Type}

/-! ### How far a check comes without the checker -/

/-- The configuration that a check of a file works with. -/
def configFor (w : Workspace σ) (path : Path) : Except ConfigError EffectiveConfig :=
  (resolveConfig w.session.finder w.files w.session.settings.current path).1

/-- The session once the configuration of a file has been looked for: the finder may remember
more than before. -/
def searched (w : Workspace σ) (path : Path) : LintSession :=
  { w.session with
    finder := (resolveConfig w.session.finder w.files w.session.settings.current path).2 }

/-- The run of the checker that a check prepares, with the files as the checker will see them;
or, where it does not come to a run, what it finds without one. -/
def prepared (w : Workspace σ) (target : CheckTarget) :
    Except (Except LintError (List Diagnostic)) (FileSystem × Invocation) :=
  match w.configFor target.path with
  | .error e =>
    .error (Lint.findingsOfConfigError target.path (SourceLines.ofText target.content) e)
  | .ok config =>
    match Invocation.prepare w.files target config
        (workingDirectory config target.path w.session.roots) with
    | .error e => .error (Lint.findingsOfError target.path (SourceLines.ofText target.content) e)
    | .ok run => .ok run

/-- A run is prepared from a configuration, and in no other way. -/
theorem prepared_eq_ok_iff {w : Workspace σ} {target : CheckTarget}
    {run : FileSystem × Invocation} :
    w.prepared target = .ok run ↔ ∃ config, w.configFor target.path = .ok config ∧
      Invocation.prepare w.files target config
        (workingDirectory config target.path w.session.roots) = .ok run := by
  rw [prepared]
  constructor
  · intro h
    split at h
    · simp at h
    · next config hconfig =>
      split at h
      · simp at h
      · next run' hrun =>
        obtain rfl := Except.ok.inj h
        exact ⟨config, hconfig, hrun⟩
  · rintro ⟨config, hconfig, hrun⟩
    simp only [hconfig, hrun]

/-- A check comes to no run for want of a configuration, or because the run that the
configuration asks for cannot be prepared. -/
theorem prepared_eq_error_iff {w : Workspace σ} {target : CheckTarget}
    {findings : Except LintError (List Diagnostic)} :
    w.prepared target = .error findings ↔
      (∃ e, w.configFor target.path = .error e ∧
        findings = Lint.findingsOfConfigError target.path (.ofText target.content) e) ∨
      ∃ config e, w.configFor target.path = .ok config ∧
        Invocation.prepare w.files target config
          (workingDirectory config target.path w.session.roots) = .error e ∧
        findings = Lint.findingsOfError target.path (.ofText target.content) e := by
  rw [prepared]
  constructor
  · intro h
    split at h
    · next e hconfig => exact Or.inl ⟨e, hconfig, (Except.error.inj h).symm⟩
    · next config hconfig =>
      split at h
      · next e hrun => exact Or.inr ⟨config, e, hconfig, hrun, (Except.error.inj h).symm⟩
      · simp at h
  · rintro (⟨e, hconfig, rfl⟩ | ⟨config, e, hconfig, hrun, rfl⟩)
    · simp only [hconfig]
    · simp only [hconfig, hrun]

/-- The calls that a check makes, known before any of them is made: one, or none. -/
def calls (w : Workspace σ) (target : CheckTarget) : List Call :=
  match w.prepared target with
  | .error _ => []
  | .ok (files, invocation) => [Call.ofPlan files invocation.plan]

theorem calls_of_prepared_error {w : Workspace σ} {target : CheckTarget}
    {findings : Except LintError (List Diagnostic)} (h : w.prepared target = .error findings) :
    w.calls target = [] := by
  rw [calls, h]

theorem calls_of_prepared_ok {w : Workspace σ} {target : CheckTarget} {files : FileSystem}
    {invocation : Invocation} (h : w.prepared target = .ok (files, invocation)) :
    w.calls target = [.ofPlan files invocation.plan] := by
  rw [calls, h]

/-! ### A whole check -/

/-- **A check**: the findings for a target and the workspace afterwards, with nothing going on
beside it. -/
def check (checker : Checker σ) (w : Workspace σ) (target : CheckTarget) :
    Except LintError (List Diagnostic) × Workspace σ :=
  match w.prepared target with
  | .error findings => (findings, { w with session := w.searched target.path })
  | .ok (files, invocation) =>
    let (result, state) := checker w.checker files invocation.plan
    let (outcome, files) := invocation.conclude files result
    (Lint.findingsOfRun target.path (SourceLines.ofText target.content) outcome,
      { session := w.searched target.path, files, checker := state })

/-- How a lint begins: it takes the document's text as lines, and goes as far as it comes
without the checker. -/
theorem begin_eq (w : Workspace σ) {doc : DocumentView} {path : Path}
    (hpath : doc.path = some path) :
    w.session.begin w.files doc =
      match w.prepared (doc.target path) with
      | .error findings =>
        (some ⟨path, .ofText doc.text, .checked findings⟩, w.searched path, w.files)
      | .ok (files, invocation) =>
        (some ⟨path, .ofText doc.text, .running invocation⟩, w.searched path, files) := by
  rw [LintSession.begin, hpath, prepared, configFor, searched]
  simp only [LintSession.check, DocumentView.target]
  rcases resolveConfig w.session.finder w.files w.session.settings.current path with
    ⟨_ | config, finder⟩
  · rfl
  · simp only
    cases Invocation.prepare w.files ⟨path, doc.text, doc.isModified⟩ config
        (workingDirectory config path w.session.roots) <;> rfl

/-- What happens in the editor while a check is waiting for the checker: nothing, where it
does not come to that. -/
def meanwhile (w : Workspace σ) (target : CheckTarget) (events : List EditorEvent) :
    List EditorEvent :=
  if w.calls target = [] then [] else events

/-- A check leaves the settings as they are. -/
theorem session_check (checker : Checker σ) (w : Workspace σ) (target : CheckTarget) :
    (w.check checker target).2.session = w.searched target.path := by
  rw [check]
  cases w.prepared target <;> rfl

/-- **A lint is a check and a settlement.** The check is made of the document as it was at the
start; the document as it is afterwards decides only whether the findings are wanted. -/
theorem lint_eq (checker : Checker σ) (w : Workspace σ) {doc : DocumentView} {path : Path}
    (hpath : doc.path = some path) (events : List EditorEvent) :
    w.lint checker doc events =
      let check := w.check checker (doc.target path)
      let happening := w.meanwhile (doc.target path) events
      let now := doc.after happening
      (Lint.settle check.1 (now.isAlive && now.text == doc.text), now,
        { check.2 with
          session :=
            { check.2.session with settings := w.session.settings.after happening } }) := by
  rw [lint, begin_eq w hpath]
  simp only [session_check]
  cases hprepared : w.prepared (doc.target path) with
  | error findings =>
    -- Without a call nothing happens meanwhile, and the document is what it was.
    have hcalls := calls_of_prepared_error hprepared
    simp only [check, hprepared, meanwhile, hcalls, if_pos, Lint.conclude_checked]
    rfl
  | ok run =>
    obtain ⟨files, invocation⟩ := run
    have hcalls : w.calls (doc.target path) ≠ [] := by
      rw [calls_of_prepared_ok hprepared]
      exact List.cons_ne_nil _ _
    simp only [check, hprepared, meanwhile, if_neg hcalls, Lint.receive, Invocation.conclude,
      Lint.conclude_checked, EditorEvent.foldl_onSession]
    rfl

/-- A document without a path is not linted. -/
theorem lint_of_path_eq_none (checker : Checker σ) (w : Workspace σ) {doc : DocumentView}
    (hpath : doc.path = none) (events : List EditorEvent) :
    w.lint checker doc events = (.ok none, doc, w) := by
  rw [lint, LintSession.begin, hpath]

end Workspace

end LintHost
