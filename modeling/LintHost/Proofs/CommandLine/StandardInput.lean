import LintHost.Proofs.CommandLine.Layout
import LintHost.Proofs.Invocation.Restoration
import LintHost.Proofs.Lint.Outcome
import LintHost.Proofs.Report.Locality

/-!
# Linting standard input and linting the file

A command has two ways to come by the text that it lints. Without a text on standard input it reads
the file, which then must be readable; with one, the file is read only to see whether the text
differs. The two ways make different documents and meet again in a check
(`LintHost.checkFile_eq_check`), which is told nothing but the path, the text, and whether the text
is unsaved. So the text of the file on standard input is as good as the file, and any other text
reaches the checker as the shadow of the very same path.

A check of such a document always comes to findings or to an error, since the document stays alive
with the text that it had (`LintHost.Workspace.lint_view`). A lint whose findings are dropped would
look like a file without problems, as dropped findings are taken for none; here none are ever
dropped, and an empty list is what a report without an entry comes to
(`LintHost.Workspace.check_eq_nil_iff`).
-/

namespace LintHost

/-! ### What a checker is shown in a check -/

/-- **A checker that is shown a text in place of a file**: it is given a pair of the real file and one
that holds the text, and the real file as its last argument. -/
structure Shown.Carries (shown : Shown) (path : Path) (text : String) : Prop where
  shadow : ∃ temporary : Path, shown.files.readText temporary = .ok text ∧
    ["--shadow-file", path.text, temporary.text] <:+: shown.plan.arguments
  last : shown.plan.arguments.getLast? = some path.text

/-- What is seen of a modified target carries its text. -/
theorem Sees.carries {before : FileSystem} {target : CheckTarget} {config : EffectiveConfig}
    {directory : Path} {shown : Shown} (h : Sees before target config directory shown)
    (hmodified : target.isModified = true) : shown.Carries target.path target.content := by
  obtain ⟨shadow, cache, hshadow, -, harguments⟩ := h.arguments
  refine ⟨?_, by rw [harguments, List.getLast?_concat]⟩
  cases hshadow with
  | saved same => exact absurd (same.symm.trans hmodified) (by decide)
  | @modified temporary differs named holds =>
    refine ⟨temporary, holds, ?_⟩
    rw [harguments]
    exact ⟨config.baseArguments ++ ["--show-column-numbers"], cache ++ [target.path.text],
      by simp only [List.append_assoc]⟩

/-- The words of the command after the executable name no shadow file. -/
def CheckOptions.NamesNoShadow (options : CheckOptions) : Prop :=
  ∀ executable arguments,
    Command.parse options.settings.mypyCommand = .ok (executable :: arguments) →
    "--shadow-file" ∉ arguments

/-- What settings give has the words of their command. -/
theorem EffectiveConfig.parse_of_ofSettings {settings : Settings} {config : EffectiveConfig}
    (h : ofSettings settings = .ok config) :
    Command.parse settings.mypyCommand = .ok config.command := by
  cases given_iff.mpr h with
  | words hwords => exact (Command.parse_of_splits hwords).trans (if_neg (List.cons_ne_nil _ _))

namespace Workspace

variable {σ : Type}

/-- A configuration file has no say in the words of the command. -/
theorem parse_of_configFor {w : Workspace σ} {path : Path} {config : EffectiveConfig}
    (h : w.configFor path = .ok config) :
    Command.parse w.session.settings.current.mypyCommand = .ok config.command := by
  rw [configFor_eq] at h
  split at h
  · simp at h
  · next given hgiven =>
    have hparse := EffectiveConfig.parse_of_ofSettings hgiven
    split at h
    · rwa [← Except.ok.inj h]
    · split at h
      · simp at h
      · rw [← Except.ok.inj h]
        exact hparse

/-- What a check shows the checker, known before it does: once its plan, or nothing. -/
def shown (w : Workspace σ) (target : CheckTarget) : List Shown :=
  match w.prepared target with
  | .error _ => []
  | .ok (files, invocation) => [⟨files, invocation.plan⟩]

/-- **Keeping record of what a checker is shown** changes nothing in a check. -/
theorem check_observed (checker : Checker σ) (session : LintSession) (files : FileSystem)
    (state : σ) (before : List Shown) (target : CheckTarget) :
    let w : Workspace σ := ⟨session, files, state⟩
    let observed := (⟨session, files, (state, before)⟩ : Workspace _).check checker.observed target
    observed.1 = (w.check checker target).1 ∧
      observed.2.checker = ((w.check checker target).2.checker, before ++ w.shown target) := by
  intro w observed
  have hprepared : (⟨session, files, (state, before)⟩ : Workspace (σ × List Shown)).prepared target =
      w.prepared target := rfl
  simp only [observed, check, shown, hprepared]
  cases w.prepared target with
  | error findings => exact ⟨rfl, by rw [List.append_nil]⟩
  | ok run => exact ⟨rfl, rfl⟩

/-- Whatever is shown was prepared from a configuration with the words of the command. -/
theorem exists_sees_of_mem_shown {w : Workspace σ} {target : CheckTarget} {shown : Shown}
    (h : shown ∈ w.shown target) :
    ∃ config directory, Sees w.files target config directory shown ∧
      Command.parse w.session.settings.current.mypyCommand = .ok config.command := by
  rw [Workspace.shown] at h
  split at h
  · simp at h
  · next hprepared =>
    obtain rfl := List.mem_singleton.mp h
    obtain ⟨config, hconfig, hrun⟩ := prepared_eq_ok_iff.mp hprepared
    exact ⟨config, _, Invocation.sees_of_prepare hrun, parse_of_configFor hconfig⟩

/-! ### A lint of a document that does not change -/

/-- **A buffer is never dropped**: a lint of it returns what its check comes to. -/
theorem lint_view (checker : Checker σ) (w : Workspace σ) {buffer : Buffer} {path : Path}
    (hpath : buffer.path = some path) :
    let checked := w.check checker (buffer.view.target path)
    (w.lint checker buffer.view []).1 = checked.1.map some ∧
      (w.lint checker buffer.view []).2.2.files = checked.2.files ∧
      (w.lint checker buffer.view []).2.2.checker = checked.2.checker := by
  intro checked
  have hnothing : w.meanwhile (buffer.view.target path) [] = [] := by rw [meanwhile, ite_self]
  rw [lint_eq checker w hpath, hnothing]
  refine ⟨?_, rfl, rfl⟩
  -- With nothing in between, the text that was linted is compared with itself.
  have halive : (buffer.view.isAlive && buffer.view.text == buffer.view.text) = true := by
    rw [beq_self_eq_true]
    rfl
  simp only [DocumentView.after_nil, halive]
  cases checked.1 <;> rfl

/-- What is found without a run is an error or a notice. -/
theorem ne_nil_of_prepared_error {w : Workspace σ} {target : CheckTarget}
    {findings : Except LintError (List Diagnostic)} (h : w.prepared target = .error findings) :
    findings ≠ .ok [] := by
  obtain ⟨e, -, rfl⟩ | ⟨config, e, -, -, rfl⟩ := prepared_eq_error_iff.mp h
  · rw [Lint.findingsOfConfigError]
    split <;> simp
  · cases e <;> simp [Lint.findingsOfError]

/-- **A check finds nothing** exactly if the checker was called and printed a report, without a
complaint, in which no line is an entry. -/
theorem check_eq_nil_iff (checker : Checker σ) (w : Workspace σ) (target : CheckTarget) :
    (w.check checker target).1 = .ok [] ↔ ∃ shown result, w.shown target = [shown] ∧
      (checker w.checker shown.files shown.plan).1 = .ok result ∧ result.stderr = "" ∧
      ∀ line ∈ Text.lines result.stdout.toList, ∀ entry,
        (ReportParser.make target.path shown.plan.workingDirectory).classify line ≠
          .entry entry := by
  rw [check, shown]
  cases hprepared : w.prepared target with
  | error findings =>
    -- Without a call there is something that says why.
    simp [ne_nil_of_prepared_error hprepared]
  | ok run =>
    obtain ⟨files, invocation⟩ := run
    simp only [Invocation.conclude, List.cons.injEq, and_true, exists_and_left, exists_eq_left']
    cases (checker w.checker files invocation.plan).1 with
    | error cause => simp [Invocation.outcome, Lint.findingsOfRun, Lint.findingsOfError]
    | ok result =>
      simp only [Except.ok.injEq, exists_eq_left']
      rw [Lint.findingsOfRun_outcome]
      by_cases hstderr : result.stderr = ""
      · rw [if_pos hstderr, Except.ok.injEq, parseReport,
          ReportParser.parse_of_hasLines (Text.hasLines_lines _), List.map_eq_nil_iff,
          List.filterMap_eq_nil_iff]
        simp only [ReportParser.entryOf?_eq_none_iff, hstderr, true_and]
      · simp [hstderr]

end Workspace

/-! ### A command is a check -/

section Command

variable {σ : Type} {checker : Checker σ} {state : σ} {fs : FileSystem} {options : CheckOptions}
  {directory : Path} {stdin : Option String} {buffer : Buffer}

/-- **A command that gets as far as a document checks it**, and returns what the check comes to. -/
theorem checkFile_eq_check
    (h : checkDocument fs (Path.normalize directory options.file) stdin = .ok buffer) :
    checkFile checker state fs options directory stdin =
      let checked := (commandWorkspace state fs options directory).check checker
        (buffer.view.target (Path.normalize directory options.file))
      (checked.1, checked.2.files, checked.2.checker) := by
  obtain ⟨hresult, hfiles, hchecker⟩ :=
    (commandWorkspace state fs options directory).lint_view checker (path_of_checkDocument h)
  rw [checkFile_of_document h]
  simp only [hresult, hfiles, hchecker]
  cases ((commandWorkspace state fs options directory).check checker
    (buffer.view.target (Path.normalize directory options.file))).1 <;> rfl

/-- What a command returns, and what it shows the checker on the way. -/
theorem checkFile_observed (checker : Checker σ) (state : σ)
    (h : checkDocument fs (Path.normalize directory options.file) stdin = .ok buffer) :
    let w := commandWorkspace state fs options directory
    let target := buffer.view.target (Path.normalize directory options.file)
    (checkFile checker.observed (state, []) fs options directory stdin).1 =
        (w.check checker target).1 ∧
      (checkFile checker.observed (state, []) fs options directory stdin).2.2.2 =
        w.shown target := by
  intro w target
  obtain ⟨hresult, hshown⟩ :=
    Workspace.check_observed checker w.session fs state [] target
  rw [checkFile_eq_check h]
  exact ⟨hresult, congrArg Prod.snd hshown⟩

/-- The text of the file on standard input makes the document that the file makes. -/
theorem checkDocument_of_readText {path : Path} {text : String} (h : fs.readText path = .ok text) :
    checkDocument fs path (some text) = checkDocument fs path none := by
  rw [checkDocument, checkDocument, h]
  rfl

theorem checkDocument_of_unreadable {path : Path} {cause : SystemError}
    (h : fs.readText path = .error cause) :
    checkDocument fs path none = .error (.unreadableSource path cause) := by
  rw [checkDocument, h]

/-- Any other text is unsaved. -/
theorem isModified_edited {path : Path} {text : String} (h : fs.readText path ≠ .ok text) :
    ((Buffer.edited path text (fs.readText path).toOption).view.target path).isModified = true := by
  rw [DocumentView.target, Buffer.view, Buffer.edited, decide_eq_true_eq]
  exact fun hsaved => h (Lint.eq_ok_of_toOption hsaved)

/-- **A text that is not the file's** is what the checker is shown in place of the file. -/
theorem carries_of_mem_shown {text : String}
    (h : fs.readText (Path.normalize directory options.file) ≠ .ok text) {shown : Shown}
    (hshown : shown ∈
      (checkFile checker.observed (state, []) fs options directory (some text)).2.2.2) :
    shown.Carries (Path.normalize directory options.file) text ∧ (options.NamesNoShadow →
      (Call.ofPlan shown.files shown.plan).shadowContent = some text) := by
  have hdocument : checkDocument fs (Path.normalize directory options.file) (some text) =
      .ok (.edited _ text (fs.readText (Path.normalize directory options.file)).toOption) := rfl
  have hmodified := isModified_edited h
  rw [(checkFile_observed checker state hdocument).2] at hshown
  obtain ⟨config, place, hsees, hcommand⟩ := Workspace.exists_sees_of_mem_shown hshown
  refine ⟨hsees.carries hmodified, fun hnames => ?_⟩
  have hcontent := hsees.shadowContent (hnames config.executable config.baseArguments hcommand)
  rw [if_pos hmodified] at hcontent
  exact hcontent

end Command

end LintHost
