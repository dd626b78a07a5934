import LintHost.Proofs.Invocation.Preparation
import LintHost.Proofs.Lint.Check

/-!
# What happens meanwhile does not reach the checker

While the checker runs, the document may be edited, marked as saved or not, closed and opened
again, and other settings may arrive. This file compares a lint beside which such things happen
with the same lint left alone (`LintHost.Workspace.Isolated`). All that the events can do to the
lint is to make its findings unwanted, and all that they leave behind are the document and the
settings that they name:

| what | where it comes from |
|------|---------------------|
| the calls | the text, the flag and the settings at the start |
| the findings, or an error | the calls and the checker |
| whether findings are reported | the document at the end |
| the settings of later lints | the settings at the start and the events |

The calls are observed by a checker with a log (`LintHost.Checker.logged`), which holds for each
call the plan and the text of the shadow file while the call is made.
-/

namespace LintHost

/-! ### Observing the calls -/

/-- The checker with a log: beside its own state it keeps the calls that were made. -/
def Checker.logged {σ : Type} (checker : Checker σ) : Checker (σ × List Call) :=
  fun state fs plan =>
    let (result, inner) := checker state.1 fs plan
    (result, inner, state.2 ++ [Call.ofPlan fs plan])

namespace Workspace

variable {σ : Type}

/-! ### The calls of a check -/

/-- **A call that shows a document as it was** when its lint began: the plan comes of the
configuration that the workspace had for the file then, and there is a shadow file exactly if
the document was modified, with the text that it had. -/
def Shows (w : Workspace σ) (doc : DocumentView) (path : Path) (call : Call) : Prop :=
  ∃ (config : EffectiveConfig) (files : FileSystem) (shadow cache : Option Path),
    w.configFor path = .ok config ∧
    Invocation.cachePath config (workingDirectory config path w.session.roots) = .ok cache ∧
    call = .ofPlan files (Invocation.planOf config path shadow cache
      (workingDirectory config path w.session.roots)) ∧
    shadow.map files.readText = (if doc.isModified then some (.ok doc.text) else none) ∧
    ("--shadow-file" ∉ config.baseArguments →
      call.shadowContent = if doc.isModified then some doc.text else none)

/-- Every call of a check shows the document as it was. -/
theorem shows_of_mem_calls {w : Workspace σ} {doc : DocumentView} {path : Path} {call : Call}
    (h : call ∈ w.calls (doc.target path)) : w.Shows doc path call := by
  cases hprepared : w.prepared (doc.target path) with
  | error findings =>
    rw [calls_of_prepared_error hprepared] at h
    simp at h
  | ok run =>
    obtain ⟨files, invocation⟩ := run
    rw [calls_of_prepared_ok hprepared] at h
    obtain rfl := List.mem_singleton.mp h
    obtain ⟨config, hconfig, hrun⟩ := prepared_eq_ok_iff.mp hprepared
    obtain ⟨cache, shadow, hcache, hshadow, rfl⟩ := Invocation.prepare_eq_ok_iff.mp hrun
    have hmap : (shadow.map (·.path)).map files.readText =
        if doc.isModified then some (.ok doc.text) else none := by
      rw [Option.map_map]
      exact Invocation.shadowOf_eq_ok hshadow
    -- A command that names a shadow file of its own has that one read in place of ours.
    exact ⟨config, files, shadow.map (·.path), cache, hconfig, hcache, rfl, hmap, fun hbase =>
      Call.shadowContent_planOf hshadow hbase path _ cache⟩

/-- A check with a log adds its calls to the log. -/
theorem check_logged (checker : Checker σ) (w : Workspace (σ × List Call)) (target : CheckTarget) :
    (w.check checker.logged target).2.checker.2 = w.checker.2 ++ w.calls target := by
  rw [check, calls]
  cases w.prepared target with
  | error findings => exact (List.append_nil _).symm
  | ok run => rfl

/-! ### Two runs of one lint -/

/-- **What a quiet and a busy lint have in common.** Both are lints of the document `doc` at
`path` in the workspace `w`, given by their result, the document and the workspace afterwards;
beside the busy one the events `happened`. -/
structure Isolated (checker : Checker σ) (w : Workspace (σ × List Call)) (doc : DocumentView)
    (path : Path) (happened : List EditorEvent)
    (quiet busy : LintResult × DocumentView × Workspace (σ × List Call)) : Prop where
  /-- The calls are those that are known at the start, and show the document as it was then. -/
  calls_eq : quiet.2.2.checker.2 = w.checker.2 ++ w.calls (doc.target path)
  shows : ∀ call ∈ w.calls (doc.target path), w.Shows doc path call
  /-- The checker has no means to tell the two lints apart. -/
  checker_eq : busy.2.2.checker = quiet.2.2.checker
  /-- An error of the check is returned in any case. -/
  error : ∀ e, (w.check checker.logged (doc.target path)).1 = .error e →
    quiet.1 = .error e ∧ busy.1 = .error e
  /-- Findings of the check are returned if the document is alive with the text that it had. -/
  findings : ∀ ds, (w.check checker.logged (doc.target path)).1 = .ok ds →
    quiet.1 = .ok (if doc.isAlive then some ds else none) ∧
    busy.1 = .ok (if busy.2.1.isAlive = true ∧ busy.2.1.text = doc.text then some ds else none)
  /-- The document afterwards has seen all that happened, and nothing else. -/
  document_eq : busy.2.1 = doc.after happened
  /-- Later lints find the same workspace but for the settings that have arrived. -/
  workspace_eq : busy.2.2 =
    { quiet.2.2 with
      session := { quiet.2.2.session with settings := w.session.settings.after happened } }

/-- **A lint is isolated from what happens meanwhile**: for every checker, every workspace and
every document with a path, whatever the events. -/
theorem lint_isolated (checker : Checker σ) (w : Workspace (σ × List Call)) {doc : DocumentView}
    {path : Path} (hpath : doc.path = some path) (events : List EditorEvent) :
    Isolated checker w doc path (w.meanwhile (doc.target path) events)
      (w.lint checker.logged doc []) (w.lint checker.logged doc events) := by
  have hnothing : w.meanwhile (doc.target path) [] = [] := by rw [meanwhile, ite_self]
  rw [lint_eq checker.logged w hpath [], lint_eq checker.logged w hpath events, hnothing]
  refine ⟨check_logged checker w _, fun _ => shows_of_mem_calls, rfl, ?_, ?_, rfl, rfl⟩
  · intro e he
    simp only [he, Lint.settle, and_self]
  · intro ds hds
    simp [hds, Lint.settle]

/-- A text that is changed and changed back, with other settings arriving in between, leaves the
findings wanted. -/
theorem lint_isolated_changed_back :
    let w : Workspace (Script × List Call) :=
      { session := { settings := ⟨{ mypyCommand := "mypy" }⟩ }
        files := { entries := [(["tmp"], .directory)] }
        checker := ({ responses := [.ok { stdout := "a.py:1:1: error: bad name\n" }] }, []) }
    let doc : DocumentView := ⟨some ⟨"/w/a.py"⟩, "x = 1\n", true, true⟩
    let events : List EditorEvent :=
      [.setText "y", .settings (.object [("mypyCommand", .string "")]), .setText "x = 1\n"]
    let quiet := w.lint (Checker.logged Script.run) doc []
    let busy := w.lint (Checker.logged Script.run) doc events
    doc.path = some ⟨"/w/a.py"⟩ ∧
      busy.1.toOption = quiet.1.toOption ∧ busy.2.2.checker.2 = quiet.2.2.checker.2 ∧
      Isolated Script.run w doc ⟨"/w/a.py"⟩ (w.meanwhile (doc.target ⟨"/w/a.py"⟩) events)
        quiet busy := by
  intro w doc events quiet busy
  have hpath : doc.path = some ⟨"/w/a.py"⟩ := rfl
  have hisolated := lint_isolated Script.run w hpath events
  exact ⟨hpath, by decide +kernel, congrArg Prod.snd hisolated.checker_eq, hisolated⟩

end Workspace

end LintHost
