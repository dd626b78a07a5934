import Mathlib.Data.List.Basic
import LintHost.Proofs.Lint.Isolation
import LintHost.Proofs.Lint.Placement
import LintHost.Proofs.Lint.Precedence

/-!
# Only the error stream tells a failure

The checker exits with the same status when it finds errors and when it cannot run, and it may have
printed half a report before it gives up. So a lint looks at the error stream first: what stands
there is handed on, and nothing else of the result is; and where nothing stands there, the output is
read as a report. The exit status is in the record of the run and decides nothing.

To say so, two lints are compared that start from one session with the same files and the same
document, and whose checkers leave two results (`LintHost.Workspace.Leaves`). The checkers may be of
any kind, with states of any types, and nothing is asked of them beyond the call that the lint
makes. `LintHost.Workspace.lint_decided_by_stderr` says when the two lints have to agree, and what
either comes to (`LintHost.Workspace.Told`).
-/

namespace LintHost

/-! ### Between the fences -/

namespace Diagnostic

/-- The text of a fenced block without its first and its last line. -/
def unfenced? (block : String) : Option String :=
  ((block.toList.dropPrefix? "```\n".toList).bind fun rest =>
    rest.dropSuffix? "\n```".toList).map String.ofList

/-- **The details stand in the block as they are**, whatever they hold. -/
theorem unfenced?_fenced (details : String) : unfenced? (fenced details) = some details := by
  rw [unfenced?, fenced, String.toList_append, String.toList_append, List.append_assoc,
    List.dropPrefix?_append_of_beq _ (beq_self_eq_true _), Option.bind_some,
    List.dropSuffix?_eq_some_iff.mpr ⟨_, rfl, beq_self_eq_true _⟩, Option.map_some,
    String.ofList_toList]

/-- What is read off a report has no description, so it is no notice of a failure. -/
theorem ne_toolFailure_of_mem_parseReport {output : String} {file directory : Path}
    {lines : SourceLines} {d : Diagnostic} (h : d ∈ parseReport output file directory lines)
    (file' : Path) (message details : String) (lines' : SourceLines) :
    d ≠ .toolFailure file' message details lines' := by
  obtain ⟨entry, rfl⟩ := mem_parseReport h
  intro heq
  have hdescription := congrArg Diagnostic.description heq
  simp [ReportParser.diagnostic, located, toolFailure] at hdescription

end Diagnostic

/-! ### One run -/

/-- What a checker that has run comes to: the record of the run, as a report or as a failure. -/
theorem Invocation.outcome_ok (invocation : Invocation) (r : RawResult) :
    invocation.outcome (.ok r) =
      let record := ⟨invocation.config, invocation.plan, invocation.shadow.isSome, r⟩
      if r.stderr = "" then .ok record else .error (.tool record) :=
  rfl

/-- A prepared run makes one call, and comes to what the checker answers it with. -/
theorem Checker.check_logged_of_prepare {σ : Type} {checker : Checker σ} {state : σ}
    {fs files : FileSystem} {target : CheckTarget} {config : EffectiveConfig} {directory : Path}
    {invocation : Invocation} {result : Except SystemError RawResult}
    (hrun : Invocation.prepare fs target config directory = .ok (files, invocation))
    (hresult : (checker state files invocation.plan).1 = result) :
    (checker.logged.check (state, []) fs target config directory).1 = invocation.outcome result ∧
      (checker.logged.check (state, []) fs target config directory).2.2.2 =
        [.ofPlan files invocation.plan] := by
  rw [check, hrun]
  exact ⟨congrArg invocation.outcome hresult, rfl⟩

/-- A shadow file is there exactly if the target is modified. -/
theorem Invocation.isSome_of_shadowOf {fs fs' : FileSystem} {target : CheckTarget}
    {shadow : Option FileSystem.TemporaryFile} (h : shadowOf fs target = .ok (fs', shadow)) :
    shadow.isSome = target.isModified := by
  have hshadow := congrArg Option.isSome (shadowOf_eq_ok h)
  rw [Option.isSome_map] at hshadow
  rw [hshadow]
  cases target.isModified <;> rfl

/-- The findings of a run: the words on the error stream, and where there are none those of the
output. -/
theorem Lint.findingsOfRun_outcome (path : Path) (text : String) (invocation : Invocation)
    (r : RawResult) :
    findingsOfRun path (.ofText text) (invocation.outcome (.ok r)) = .ok
      (if r.stderr = "" then
        parseReport r.stdout path invocation.plan.workingDirectory (.ofText text)
      else [.notice path text InvokeError.toolMessage r.stderr]) := by
  rw [Invocation.outcome_ok]
  by_cases h : r.stderr = ""
  · rw [if_pos h, if_pos h]
    rfl
  · rw [if_neg h, if_neg h, ← Diagnostic.toolFailure_eq_notice]
    rfl

/-- Whether findings for a document are still wanted after some events. -/
def DocumentView.wants (doc : DocumentView) (during : List EditorEvent) : Bool :=
  (doc.after during).isAlive && (doc.after during).text == doc.text

namespace Workspace

variable {σ τ : Type}

/-- **The checker starts and leaves this result**, if the lint of a document comes to calling it. -/
def Leaves (checker : Checker σ) (w : Workspace σ) (doc : DocumentView) (r : RawResult) : Prop :=
  ∀ path files invocation, doc.path = some path →
    w.prepared (doc.target path) = .ok (files, invocation) →
    (checker w.checker files invocation.plan).1 = .ok r

/-- A lint that calls the checker is settled by the outcome of the run. -/
theorem lint_of_leaves {checker : Checker σ} {w : Workspace σ} {doc : DocumentView} {path : Path}
    {r : RawResult} {files : FileSystem} {invocation : Invocation} (h : w.Leaves checker doc r)
    (hpath : doc.path = some path)
    (hprepared : w.prepared (doc.target path) = .ok (files, invocation))
    (during : List EditorEvent) :
    (w.lint checker doc during).1 =
      Lint.settle (Lint.findingsOfRun path (.ofText doc.text) (invocation.outcome (.ok r)))
        (doc.wants during) := by
  have hcalls : w.calls (doc.target path) ≠ [] := by
    rw [calls_of_prepared_ok hprepared]
    exact List.cons_ne_nil _ _
  rw [lint_eq checker w hpath, meanwhile, if_neg hcalls, check, hprepared]
  simp only [h path files invocation hpath hprepared, Invocation.conclude]
  rfl

/-- **What a lint comes to whose checker left a result**, with the call that was made. -/
structure Told (checker : Checker σ) (w : Workspace σ) (doc : DocumentView) (path : Path)
    (during : List EditorEvent) (call : Call) (r : RawResult) : Prop where
  /-- Words on the error stream are given notice of, whatever else there is, and stand between the
  fences as they are. -/
  complained : r.stderr ≠ "" → ∃ notice,
    (w.lint checker doc during).1 = .ok (if doc.wants during then some [notice] else none) ∧
    notice = .notice path doc.text InvokeError.toolMessage r.stderr ∧
    notice.description.bind Diagnostic.unfenced? = some r.stderr
  /-- Without such words the output is read as a report, and no failure is given notice of. -/
  reported : r.stderr = "" → ∃ ds,
    (w.lint checker doc during).1 = .ok (if doc.wants during then some ds else none) ∧
    ds = parseReport r.stdout path call.plan.workingDirectory (.ofText doc.text) ∧
    ∀ d ∈ ds, ∀ file message details lines, d ≠ .toolFailure file message details lines
  /-- The run makes the call and no other. Its record holds the configuration for the file, the plan
  of the call and the result, whether it is a report or a failure. -/
  recorded : ∃ config, w.configFor path = .ok config ∧
    let run := checker.logged.check (w.checker, []) w.files (doc.target path) config
      (workingDirectory config path w.session.roots)
    let record : InvocationRecord := ⟨config, call.plan, doc.isModified, r⟩
    run.2.2.2 = [call] ∧ run.1 = (if r.stderr = "" then .ok record else .error (.tool record)) ∧
    (w.lint checker doc during).1 =
      Lint.settle (Lint.findingsOfRun path (.ofText doc.text) run.1) (doc.wants during)

/-- **A checker that has run** is told of by the result that it left. -/
theorem told_of_leaves {checker : Checker σ} {w : Workspace σ} {doc : DocumentView} {path : Path}
    {r : RawResult} {call : Call} (h : w.Leaves checker doc r) (hpath : doc.path = some path)
    (hcall : call ∈ w.calls (doc.target path)) (during : List EditorEvent) :
    w.Told checker doc path during call r := by
  cases hprepared : w.prepared (doc.target path) with
  | error findings =>
    rw [calls_of_prepared_error hprepared] at hcall
    exact absurd hcall List.not_mem_nil
  | ok run =>
    obtain ⟨files, invocation⟩ := run
    rw [calls_of_prepared_ok hprepared] at hcall
    obtain rfl := List.mem_singleton.mp hcall
    have hlint := lint_of_leaves h hpath hprepared during
    have hfound := hlint
    rw [Lint.findingsOfRun_outcome] at hfound
    refine ⟨fun hstderr => ?_, fun hstderr => ?_, ?_⟩
    · rw [if_neg hstderr] at hfound
      exact ⟨_, hfound, rfl, Diagnostic.unfenced?_fenced r.stderr⟩
    · rw [if_pos hstderr] at hfound
      exact ⟨_, hfound, rfl, fun d hd => Diagnostic.ne_toolFailure_of_mem_parseReport hd⟩
    · obtain ⟨config, hconfig, hrun⟩ := prepared_eq_ok_iff.mp hprepared
      obtain ⟨hrecord, hlog⟩ :=
        Checker.check_logged_of_prepare hrun (h path files invocation hpath hprepared)
      obtain ⟨cache, shadow, -, hshadow, rfl⟩ := Invocation.prepare_eq_ok_iff.mp hrun
      have hmodified : shadow.isSome = doc.isModified := Invocation.isSome_of_shadowOf hshadow
      refine ⟨config, hconfig, hlog, ?_, ?_⟩
      · rw [← hmodified]
        exact hrecord
      · rw [hlint, ← hrecord]
        rfl

/-! ### Two runs -/

/-- A lint that does not come to a call has nothing to ask a checker. -/
theorem lint_of_no_call (session : LintSession) (files : FileSystem) (doc : DocumentView)
    (during : List EditorEvent) (checker : Checker σ) (state : σ) (checker' : Checker τ)
    (state' : τ)
    (h : ∀ path files' invocation, doc.path = some path →
      (⟨session, files, state⟩ : Workspace σ).prepared (doc.target path) ≠
        .ok (files', invocation)) :
    ((⟨session, files, state⟩ : Workspace σ).lint checker doc during).1 =
      ((⟨session, files, state'⟩ : Workspace τ).lint checker' doc during).1 := by
  cases hpath : doc.path with
  | none => rw [lint_of_path_eq_none _ _ hpath, lint_of_path_eq_none _ _ hpath]
  | some path =>
    cases hprepared : (⟨session, files, state⟩ : Workspace σ).prepared (doc.target path) with
    | ok run => exact absurd hprepared (h path run.1 run.2 hpath)
    | error findings =>
      have hprepared' : (⟨session, files, state'⟩ : Workspace τ).prepared (doc.target path) =
          .error findings := hprepared
      rw [lint_eq _ _ hpath, lint_eq _ _ hpath, meanwhile, meanwhile,
        if_pos (calls_of_prepared_error hprepared), if_pos (calls_of_prepared_error hprepared'),
        check, check, hprepared, hprepared']

/-- **Only the error stream tells a failure.** Take two lints of one document in one session, with
checkers that leave two results. If the results agree in output and error stream, or in an error
stream that is not empty, the lints agree, whatever the exit statuses, the signals and the rest of
the output. Either lint, if it calls its checker at all, hands on an error stream that is not empty,
and else reads the output; and the record of the run holds what was run and what came of it. -/
theorem lint_decided_by_stderr (session : LintSession) (files : FileSystem) (doc : DocumentView)
    (during : List EditorEvent) (checker : Checker σ) (state : σ) (checker' : Checker τ)
    (state' : τ) {r r' : RawResult}
    (h : Leaves checker ⟨session, files, state⟩ doc r)
    (h' : Leaves checker' ⟨session, files, state'⟩ doc r') :
    let w : Workspace σ := ⟨session, files, state⟩
    let w' : Workspace τ := ⟨session, files, state'⟩
    (r.stdout = r'.stdout → r.stderr = r'.stderr →
      (w.lint checker doc during).1 = (w'.lint checker' doc during).1) ∧
    (r.stderr ≠ "" → r.stderr = r'.stderr →
      (w.lint checker doc during).1 = (w'.lint checker' doc during).1) ∧
    ∀ path call, doc.path = some path → call ∈ w.calls (doc.target path) →
      w.Told checker doc path during call r ∧ w'.Told checker' doc path during call r' := by
  intro w w'
  have hsame : r.stderr = r'.stderr → (r.stderr = "" → r.stdout = r'.stdout) →
      (w.lint checker doc during).1 = (w'.lint checker' doc during).1 := by
    intro hstderr hstdout
    by_cases hcall : ∃ path files' invocation, doc.path = some path ∧
        w.prepared (doc.target path) = .ok (files', invocation)
    · obtain ⟨path, files', invocation, hpath, hprepared⟩ := hcall
      rw [lint_of_leaves h hpath hprepared, lint_of_leaves h' hpath hprepared,
        Lint.findingsOfRun_outcome, Lint.findingsOfRun_outcome, ← hstderr]
      by_cases hempty : r.stderr = ""
      · rw [if_pos hempty, if_pos hempty, hstdout hempty]
      · rw [if_neg hempty, if_neg hempty]
    · exact lint_of_no_call session files doc during checker state checker' state'
        fun path files' invocation hpath hprepared =>
          hcall ⟨path, files', invocation, hpath, hprepared⟩
  exact ⟨fun hstdout hstderr => hsame hstderr fun _ => hstdout,
    fun hne hstderr => hsame hstderr fun hempty => absurd hempty hne,
    fun path call hpath hcall =>
      ⟨told_of_leaves h hpath hcall during, told_of_leaves h' hpath hcall during⟩⟩

/-- A script leaves its first answer. -/
theorem leaves_script {w : Workspace Script} {doc : DocumentView} {r : RawResult}
    (h : w.checker.answer = .ok r) : w.Leaves Script.run doc r := by
  intro path files invocation _ _
  rw [Script.run_eq, h]

/-- Of a checker that prints a report and complains, and of one that is killed without any output,
nothing is heard but the complaint, which here holds a fence of its own. -/
theorem lint_decided_by_stderr_killed :
    let session : LintSession := { settings := ⟨{ mypyCommand := "mypy" }⟩ }
    let files : FileSystem := { entries := [(["tmp"], .directory)] }
    let doc : DocumentView := ⟨some ⟨"/w/a.py"⟩, "x = 1\ny\n", true, true⟩
    let words := "Traceback\n```\nKilled\n"
    let result : RawResult := ⟨some 1, "a.py:1:1: error: bad name\n", words⟩
    let killed : RawResult := ⟨none, "", words⟩
    let w : Workspace Script := ⟨session, files, { responses := [.ok result] }⟩
    let w' : Workspace Script := ⟨session, files, { responses := [.ok killed] }⟩
    w.Leaves Script.run doc result ∧ w'.Leaves Script.run doc killed ∧
      (w.lint Script.run doc []).1 =
        .ok (some [.notice ⟨"/w/a.py"⟩ doc.text InvokeError.toolMessage words]) ∧
      (w'.lint Script.run doc []).1 = (w.lint Script.run doc []).1 := by
  intro session files doc words result killed w w'
  have hresult : w.Leaves Script.run doc result := leaves_script rfl
  have hkilled : w'.Leaves Script.run doc killed := leaves_script rfl
  obtain ⟨-, hsame, htold⟩ := lint_decided_by_stderr session files doc [] Script.run
    { responses := [.ok result] } Script.run { responses := [.ok killed] } hresult hkilled
  have hcalls : w.calls (doc.target ⟨"/w/a.py"⟩) ≠ [] := by decide +kernel
  obtain ⟨call, hcall⟩ := List.exists_mem_of_ne_nil _ hcalls
  obtain ⟨_, hnotice, rfl, -⟩ := (htold _ call rfl hcall).1.complained (by decide)
  exact ⟨hresult, hkilled, hnotice, (hsame (by decide) rfl).symm⟩

end Workspace

end LintHost
