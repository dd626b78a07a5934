import LintHost.Proofs.Config.Given
import LintHost.Proofs.Invocation.Preparation
import LintHost.Proofs.Lint.Check

/-!
# What a lint comes to

There are nine things that a lint of a document can come to, and several of them may have a
cause at once: the command may be refused while the configuration file is unreadable and the
temporary directory is missing. This file fixes which of them counts. For a document that stays
alive and unchanged, the first of these rows that applies decides the result, and whether the
checker is called:

| the case | the result | a call |
|----------|------------|--------|
| the document has no path | nothing | no |
| the command is refused | a notice of it | no |
| the command has no words | an error | no |
| the configuration file found cannot be read | an error | no |
| a cache is to be kept, and its directory is not set | an error | no |
| the document is modified, and the shadow file cannot be written | an error | no |
| the checker does not start | an error | yes |
| the checker complains | a notice of it | yes |
| otherwise | the report | yes |

The rows are the rules of `LintHost.Workspace.Verdict`, each with the denial of the rows before
it, so that no two of them apply together. Each says about one cause what the preparation of
the run makes of it (`LintHost.Workspace.prepared_of_refused` and the lemmas after it), and
`LintHost.Workspace.exists_prepared` says that there is no other.
-/

namespace LintHost

/-! ### Notices -/

/-- **The notice of a failure**: an error on the whole first line of the text, with the details
in a fenced block. -/
def Diagnostic.notice (file : Path) (text message details : String) : Diagnostic where
  severity := .error
  file := file
  line := 0
  column := none
  range := ⟨⟨0, 0⟩, ⟨0, ((SourceLines.ofText text).lineLength? 0).getD 0⟩⟩
  message := message
  description := some ("```\n" ++ details ++ "\n```")

theorem Diagnostic.toolFailure_eq_notice (file : Path) (text message details : String) :
    toolFailure file message details (.ofText text) = notice file text message details := by
  rw [toolFailure, located, highlight, notice, SourceLines.lineLength?]
  cases (SourceLines.ofText text).lineChars? 0 <;> rfl

/-! ### Scripts -/

namespace Script

/-- What a script answers to the next call; with its answers used up, that of a checker that
prints nothing. -/
def answer (script : Script) : Except SystemError RawResult :=
  script.responses.head?.getD (.ok {})

/-- The script after one more call. -/
def after (script : Script) (call : Call) : Script where
  responses := script.responses.tail
  calls := script.calls ++ [call]

/-- A script takes the first of its answers, whatever it is called with. -/
theorem run_eq (script : Script) (fs : FileSystem) (plan : Plan) :
    script.run fs plan = (script.answer, script.after (.ofPlan fs plan)) := by
  obtain ⟨_ | ⟨response, responses⟩, calls⟩ := script <;> rfl

end Script

namespace Workspace

variable {σ : Type} {w : Workspace σ} {doc : DocumentView} {path : Path}

/-! ### What may stand in the way -/

/-- The command setting. -/
def command (w : Workspace σ) : String :=
  w.session.settings.current.mypyCommand

/-- The configuration file that is found for a file, perhaps from memory. -/
def located (w : Workspace σ) (path : Path) : Option Path :=
  (w.session.finder.find w.files (path.parent?.getD path)).1

/-- The configuration file that is found, if any, can be read. -/
def Readable (w : Workspace σ) (path : Path) : Prop :=
  ∀ config, w.located path = some config → ∃ text, w.files.readText config = .ok text

/-- A cache is to be kept: the settings say so, and the configuration file has no say in it. -/
def KeepsCache (w : Workspace σ) (path : Path) : Prop :=
  w.session.settings.current.incrementalMode = true ∧
    ∀ config text, w.located path = some config → w.files.readText config = .ok text →
      (Ini.parse text).hasKey "mypy" "incremental" = false

/-- A cache is to be kept, but there is no setting for its place. -/
def LacksCache (w : Workspace σ) (path : Path) : Prop :=
  w.KeepsCache path ∧ w.session.settings.current.incrementalCacheDirectory = ""

/-- The document is modified, but its text cannot be written to a shadow file. -/
def LacksShadow (w : Workspace σ) (doc : DocumentView) (path : Path) (cause : SystemError) : Prop :=
  doc.isModified = true ∧
    w.files.createTemporary (path.fileName?.getD Invocation.fallbackName) doc.text = .error cause

/-- **Nothing stands in the way** of a call of the named executable. -/
structure Ready (w : Workspace σ) (doc : DocumentView) (path : Path) (executable : String) :
    Prop where
  command : ∃ rest, Command.Splits w.command (executable :: rest)
  readable : w.Readable path
  cache : ¬w.LacksCache path
  shadow : ∀ cause, ¬w.LacksShadow doc path cause

/-! ### The configuration -/

/-- The configuration for a file, in terms of the file found for it. -/
theorem configFor_eq (w : Workspace σ) (path : Path) :
    w.configFor path =
      match EffectiveConfig.ofSettings w.session.settings.current with
      | .error e => .error e
      | .ok config =>
        match w.located path with
        | none => .ok config
        | some file =>
          match w.files.readText file with
          | .error cause => .error (.unreadable file cause)
          | .ok text => .ok (config.applyProject file (Ini.parse text)) := by
  rw [configFor, resolveConfig, located]
  cases EffectiveConfig.ofSettings w.session.settings.current with
  | error e => rfl
  | ok config =>
    simp only
    rcases w.session.finder.find w.files (path.parent?.getD path) with ⟨_ | file, finder⟩
    · rfl
    · simp only
      cases w.files.readText file <;> rfl

theorem configFor_of_refused {fault : CommandFault} (h : Command.Refused w.command fault) :
    w.configFor path = .error (.invalidCommand w.command fault) := by
  rw [configFor_eq, (EffectiveConfig.Given.refused h).eq]
  rfl

theorem configFor_of_no_words (h : Command.Splits w.command []) :
    w.configFor path = .error .emptyCommand := by
  rw [configFor_eq, (EffectiveConfig.Given.empty h).eq]

/-- The configuration of settings with a command that has words. -/
theorem ofSettings_of_splits {executable : String} {rest : List String}
    (h : Command.Splits w.command (executable :: rest)) :
    EffectiveConfig.ofSettings w.session.settings.current =
      .ok ⟨executable, rest, w.session.settings.current.envMypyPath,
        w.session.settings.current.incrementalMode,
        w.session.settings.current.incrementalCacheDirectory, none⟩ :=
  (EffectiveConfig.Given.words h).eq

theorem configFor_of_unreadable {executable : String} {rest : List String} {config : Path}
    {cause : SystemError} (hcommand : Command.Splits w.command (executable :: rest))
    (hlocated : w.located path = some config) (hread : w.files.readText config = .error cause) :
    w.configFor path = .error (.unreadable config cause) := by
  rw [configFor_eq, ofSettings_of_splits hcommand, hlocated]
  simp only [hread]

/-- **A command with words and a file that can be read give a configuration**, which asks for a
cache exactly if one is to be kept. -/
theorem exists_configFor {executable : String} {rest : List String}
    (hcommand : Command.Splits w.command (executable :: rest)) (hread : w.Readable path) :
    ∃ config, w.configFor path = .ok config ∧ config.executable = executable ∧
      config.cacheDirectory = w.session.settings.current.incrementalCacheDirectory ∧
      (config.incremental = true ↔ w.KeepsCache path) := by
  rw [configFor_eq, ofSettings_of_splits hcommand]
  cases hlocated : w.located path with
  | none =>
    refine ⟨_, rfl, rfl, rfl, ?_⟩
    rw [KeepsCache, hlocated]
    exact ⟨fun h => ⟨h, nofun⟩, fun h => h.1⟩
  | some file =>
    obtain ⟨text, htext⟩ := hread file hlocated
    simp only [htext]
    refine ⟨_, rfl, rfl, rfl, ?_⟩
    rw [KeepsCache, hlocated, EffectiveConfig.applyProject, Bool.and_eq_true, Bool.not_eq_true']
    refine and_congr_right fun _ => ⟨?_, fun h => h file text rfl htext⟩
    -- The file has one text, so what the text read here says is what any text of it says.
    rintro hkey _ text' ⟨rfl⟩ htext'
    obtain rfl : text = text' := Except.ok.inj (htext.symm.trans htext')
    exact hkey

/-! ### The preparation of a run -/

/-- A refused command gives notice, and nothing else has a say in it. -/
theorem prepared_of_refused {fault : CommandFault} (h : Command.Refused w.command fault) :
    w.prepared (doc.target path) =
      .error (.ok [.notice path doc.text invalidCommandMessage
        (ConfigError.invalidCommand w.command fault).message]) := by
  rw [← Diagnostic.toolFailure_eq_notice]
  exact prepared_eq_error_iff.mpr (Or.inl ⟨_, configFor_of_refused h, rfl⟩)

theorem prepared_of_no_words (h : Command.Splits w.command []) :
    w.prepared (doc.target path) = .error (.error (.config .emptyCommand)) :=
  prepared_eq_error_iff.mpr (Or.inl ⟨_, configFor_of_no_words h, rfl⟩)

theorem prepared_of_unreadable {executable : String} {rest : List String} {config : Path}
    {cause : SystemError} (hcommand : Command.Splits w.command (executable :: rest))
    (hlocated : w.located path = some config) (hread : w.files.readText config = .error cause) :
    w.prepared (doc.target path) = .error (.error (.config (.unreadable config cause))) :=
  prepared_eq_error_iff.mpr
    (Or.inl ⟨_, configFor_of_unreadable hcommand hlocated hread, rfl⟩)

theorem prepared_of_lacksCache {executable : String} {rest : List String}
    (hcommand : Command.Splits w.command (executable :: rest)) (hread : w.Readable path)
    (hcache : w.LacksCache path) :
    w.prepared (doc.target path) = .error (.error (.config .emptyCacheDirectory)) := by
  obtain ⟨config, hconfig, -, hdirectory, hincremental⟩ := exists_configFor hcommand hread
  have hpath : Invocation.cachePath config (workingDirectory config path w.session.roots) =
      .error (.config .emptyCacheDirectory) := by
    rw [Invocation.cachePath, if_pos (hincremental.mpr hcache.1), cacheDirectory,
      if_pos (hdirectory.trans hcache.2)]
  exact prepared_eq_error_iff.mpr (Or.inr
    ⟨config, _, hconfig, Invocation.prepare_eq_error_iff.mpr (Or.inl hpath), rfl⟩)

/-- Unless the setting for its place is missing where it is needed, there is a cache directory,
or none is asked for. -/
theorem exists_cachePath {config : EffectiveConfig}
    (hdirectory :
      config.cacheDirectory = w.session.settings.current.incrementalCacheDirectory)
    (hincremental : config.incremental = true ↔ w.KeepsCache path) (hcache : ¬w.LacksCache path)
    (directory : Path) : ∃ cache, Invocation.cachePath config directory = .ok cache := by
  rw [Invocation.cachePath]
  by_cases hkeeps : w.KeepsCache path
  · have hset : ¬config.cacheDirectory = "" := fun h => hcache ⟨hkeeps, hdirectory.symm.trans h⟩
    rw [if_pos (hincremental.mpr hkeeps), cacheDirectory, if_neg hset]
    simp only
    by_cases habsolute : (Path.mk config.cacheDirectory).isAbsolute = true
    · exact ⟨_, by rw [if_pos habsolute]⟩
    · exact ⟨_, by rw [if_neg habsolute]⟩
  · exact ⟨none, if_neg fun h => hkeeps (hincremental.mp h)⟩

theorem prepared_of_lacksShadow {executable : String} {rest : List String} {cause : SystemError}
    (hcommand : Command.Splits w.command (executable :: rest)) (hread : w.Readable path)
    (hcache : ¬w.LacksCache path) (hshadow : w.LacksShadow doc path cause) :
    w.prepared (doc.target path) = .error (.error (.shadowFile cause)) := by
  obtain ⟨config, hconfig, -, hdirectory, hincremental⟩ := exists_configFor hcommand hread
  obtain ⟨cache, hpath⟩ := exists_cachePath hdirectory hincremental hcache
    (workingDirectory config path w.session.roots)
  have hfailed : Invocation.shadowOf w.files (doc.target path) = .error (.shadowFile cause) :=
    Invocation.shadowOf_eq_error_iff.mpr ⟨cause, rfl, hshadow⟩
  exact prepared_eq_error_iff.mpr (Or.inr ⟨config, _, hconfig,
    Invocation.prepare_eq_error_iff.mpr (Or.inr ⟨⟨cache, hpath⟩, hfailed⟩), rfl⟩)

/-- **Where nothing stands in the way a run is prepared.** -/
theorem exists_prepared {executable : String} (h : w.Ready doc path executable) :
    ∃ files invocation, w.prepared (doc.target path) = .ok (files, invocation) ∧
      invocation.plan.executable = executable := by
  obtain ⟨⟨rest, hcommand⟩, hread, hcache, hshadow⟩ := h
  obtain ⟨config, hconfig, hexecutable, hdirectory, hincremental⟩ :=
    exists_configFor hcommand hread
  obtain ⟨cache, hpath⟩ := exists_cachePath hdirectory hincremental hcache
    (workingDirectory config path w.session.roots)
  cases hmade : Invocation.shadowOf w.files (doc.target path) with
  | error e =>
    obtain ⟨cause, -, hlacks⟩ := Invocation.shadowOf_eq_error_iff.mp hmade
    exact absurd hlacks (hshadow cause)
  | ok made =>
    obtain ⟨files, shadow⟩ := made
    have hrun := Invocation.prepare_eq_ok_iff.mpr ⟨cache, shadow, hpath, hmade, rfl⟩
    exact ⟨_, _, prepared_eq_ok_iff.mpr ⟨config, hconfig, hrun⟩, hexecutable⟩

/-! ### From the preparation to the result -/

/-- Where a check does not come to a run, the checker is left alone. -/
theorem lint_of_prepared_error {w : Workspace Script}
    {findings : Except LintError (List Diagnostic)}
    (h : w.prepared (doc.target path) = .error findings) (hpath : doc.path = some path)
    {during : List EditorEvent} (hstays : doc.Stays during) :
    (w.lint Script.run doc during).1 = Lint.settle findings true ∧
      (w.lint Script.run doc during).2.2.checker = w.checker := by
  rw [lint_eq Script.run w hpath, meanwhile, if_pos (calls_of_prepared_error h), check, h]
  simp [hstays.alive]

/-- A run takes one answer of the script, and its outcome decides the result. -/
theorem lint_of_prepared_ok {w : Workspace Script} {files : FileSystem} {invocation : Invocation}
    (h : w.prepared (doc.target path) = .ok (files, invocation)) (hpath : doc.path = some path)
    {during : List EditorEvent} (hstays : doc.Stays during) :
    (w.lint Script.run doc during).1 =
        Lint.settle (Lint.findingsOfRun path (.ofText doc.text)
          (invocation.outcome w.checker.answer)) true ∧
      (w.lint Script.run doc during).2.2.checker =
        w.checker.after (.ofPlan files invocation.plan) := by
  have hcalls : w.calls (doc.target path) ≠ [] := by
    rw [calls_of_prepared_ok h]
    exact List.cons_ne_nil _ _
  rw [lint_eq Script.run w hpath, meanwhile, if_neg hcalls, check, h]
  simp only [Script.run_eq, Invocation.conclude, hstays.alive_after, hstays.text_after,
    beq_self_eq_true, Bool.and_self]
  exact ⟨rfl, trivial⟩

/-- Where nothing stands in the way there is one call, of the named executable, and the lint is
what its outcome makes of it. -/
theorem lint_of_ready {w : Workspace Script} {executable : String} {call : Call}
    (hready : w.Ready doc path executable) (hcall : w.calls (doc.target path) = [call])
    (hpath : doc.path = some path) {during : List EditorEvent} (hstays : doc.Stays during) :
    ∃ invocation : Invocation, invocation.plan = call.plan ∧ call.plan.executable = executable ∧
      (w.lint Script.run doc during).1 =
        Lint.settle (Lint.findingsOfRun path (.ofText doc.text)
          (invocation.outcome w.checker.answer)) true ∧
      (w.lint Script.run doc during).2.2.checker = w.checker.after call := by
  obtain ⟨files, invocation, hprepared, hexecutable⟩ := exists_prepared hready
  obtain rfl := (List.cons.inj (hcall.symm.trans (calls_of_prepared_ok hprepared))).1
  exact ⟨invocation, rfl, hexecutable, lint_of_prepared_ok hprepared hpath hstays⟩

/-! ### The verdict -/

variable (w : Workspace Script) (doc : DocumentView)

/-- **What a lint of a document that stays as it is comes to**: its result, and the script
afterwards. -/
inductive Verdict : LintResult → Script → Prop
  | untitled (hpath : doc.path = none) : Verdict (.ok none) w.checker
  | refusedCommand {path : Path} {fault : CommandFault} (hpath : doc.path = some path)
      (hcommand : Command.Refused w.command fault) :
      Verdict (.ok (some [.notice path doc.text invalidCommandMessage
        (ConfigError.invalidCommand w.command fault).message])) w.checker
  | emptyCommand {path : Path} (hpath : doc.path = some path)
      (hcommand : Command.Splits w.command []) :
      Verdict (.error (.config .emptyCommand)) w.checker
  | unreadableConfig {path config : Path} {executable : String} {rest : List String}
      {cause : SystemError} (hpath : doc.path = some path)
      (hcommand : Command.Splits w.command (executable :: rest))
      (hlocated : w.located path = some config)
      (hread : w.files.readText config = .error cause) :
      Verdict (.error (.config (.unreadable config cause))) w.checker
  | emptyCacheDirectory {path : Path} {executable : String} {rest : List String}
      (hpath : doc.path = some path) (hcommand : Command.Splits w.command (executable :: rest))
      (hread : w.Readable path) (hcache : w.LacksCache path) :
      Verdict (.error (.config .emptyCacheDirectory)) w.checker
  | shadowFile {path : Path} {executable : String} {rest : List String} {cause : SystemError}
      (hpath : doc.path = some path) (hcommand : Command.Splits w.command (executable :: rest))
      (hread : w.Readable path) (hcache : ¬w.LacksCache path)
      (hshadow : w.LacksShadow doc path cause) :
      Verdict (.error (.shadowFile cause)) w.checker
  | notStarted {path : Path} {executable : String} {call : Call} {cause : SystemError}
      (hpath : doc.path = some path) (hready : w.Ready doc path executable)
      (hcall : w.calls (doc.target path) = [call]) (hanswer : w.checker.answer = .error cause) :
      Verdict (.error (.spawn executable cause)) (w.checker.after call)
  | complained {path : Path} {executable : String} {call : Call} {result : RawResult}
      (hpath : doc.path = some path) (hready : w.Ready doc path executable)
      (hcall : w.calls (doc.target path) = [call]) (hanswer : w.checker.answer = .ok result)
      (hstderr : result.stderr ≠ "") :
      Verdict (.ok (some [.notice path doc.text InvokeError.toolMessage result.stderr]))
        (w.checker.after call)
  | reported {path : Path} {executable : String} {call : Call} {result : RawResult}
      (hpath : doc.path = some path) (hready : w.Ready doc path executable)
      (hcall : w.calls (doc.target path) = [call]) (hanswer : w.checker.answer = .ok result)
      (hstderr : result.stderr = "") :
      Verdict (.ok (some (parseReport result.stdout path call.plan.workingDirectory
        (.ofText doc.text)))) (w.checker.after call)

variable {w doc}

/-- What a verdict says is what the lint does, rule by rule. -/
theorem lint_of_verdict {result : LintResult} {script : Script} (h : w.Verdict doc result script)
    {during : List EditorEvent} (hstays : doc.Stays during) :
    (w.lint Script.run doc during).1 = result ∧
      (w.lint Script.run doc during).2.2.checker = script := by
  cases h with
  | untitled hpath => simp [lint_of_path_eq_none Script.run w hpath during]
  | refusedCommand hpath hcommand =>
    exact lint_of_prepared_error (prepared_of_refused hcommand) hpath hstays
  | emptyCommand hpath hcommand =>
    exact lint_of_prepared_error (prepared_of_no_words hcommand) hpath hstays
  | unreadableConfig hpath hcommand hlocated hread =>
    exact lint_of_prepared_error (prepared_of_unreadable hcommand hlocated hread) hpath hstays
  | emptyCacheDirectory hpath hcommand hread hcache =>
    exact lint_of_prepared_error (prepared_of_lacksCache hcommand hread hcache) hpath hstays
  | shadowFile hpath hcommand hread hcache hshadow =>
    exact lint_of_prepared_error (prepared_of_lacksShadow hcommand hread hcache hshadow) hpath
      hstays
  | notStarted hpath hready hcall hanswer =>
    obtain ⟨invocation, hplan, rfl, hlint, hchecker⟩ := lint_of_ready hready hcall hpath hstays
    rw [hanswer, Invocation.outcome, hplan] at hlint
    exact ⟨hlint, hchecker⟩
  | complained hpath hready hcall hanswer hstderr =>
    obtain ⟨invocation, hplan, rfl, hlint, hchecker⟩ := lint_of_ready hready hcall hpath hstays
    rw [hanswer, Invocation.outcome, if_neg hstderr] at hlint
    rw [← Diagnostic.toolFailure_eq_notice]
    exact ⟨hlint, hchecker⟩
  | reported hpath hready hcall hanswer hstderr =>
    obtain ⟨invocation, hplan, rfl, hlint, hchecker⟩ := lint_of_ready hready hcall hpath hstays
    rw [hanswer, Invocation.outcome, if_pos hstderr, hplan] at hlint
    exact ⟨hlint, hchecker⟩

/-- Every lint has a verdict. -/
theorem exists_verdict (w : Workspace Script) (doc : DocumentView) :
    ∃ result script, w.Verdict doc result script := by
  -- The rows of the table from the top, each taken if it applies and denied for those below it.
  cases hpath : doc.path with
  | none => exact ⟨_, _, .untitled hpath⟩
  | some path =>
    obtain ⟨fault, hrefused⟩ | ⟨words, hcommand⟩ := Command.refused_or_splits w.command
    · exact ⟨_, _, .refusedCommand hpath hrefused⟩
    obtain _ | ⟨executable, rest⟩ := words
    · exact ⟨_, _, .emptyCommand hpath hcommand⟩
    by_cases hread : w.Readable path
    · by_cases hcache : w.LacksCache path
      · exact ⟨_, _, .emptyCacheDirectory hpath hcommand hread hcache⟩
      by_cases hshadow : ∃ cause, w.LacksShadow doc path cause
      · obtain ⟨cause, hshadow⟩ := hshadow
        exact ⟨_, _, .shadowFile hpath hcommand hread hcache hshadow⟩
      have hready : w.Ready doc path executable :=
        ⟨⟨rest, hcommand⟩, hread, hcache, not_exists.mp hshadow⟩
      obtain ⟨files, invocation, hprepared, -⟩ := exists_prepared hready
      have hcall := calls_of_prepared_ok hprepared
      cases hanswer : w.checker.answer with
      | error cause => exact ⟨_, _, .notStarted hpath hready hcall hanswer⟩
      | ok result =>
        by_cases hstderr : result.stderr = ""
        · exact ⟨_, _, .reported hpath hready hcall hanswer hstderr⟩
        · exact ⟨_, _, .complained hpath hready hcall hanswer hstderr⟩
    · obtain ⟨config, hconfig⟩ := Classical.not_forall.mp hread
      obtain ⟨hlocated, hunread⟩ := Classical.not_imp.mp hconfig
      cases htext : w.files.readText config with
      | ok text => exact absurd ⟨text, htext⟩ hunread
      | error cause => exact ⟨_, _, .unreadableConfig hpath hcommand hlocated htext⟩

/-- **The verdict is the lint**: of a document that stays as it is, a lint comes to the one thing
that its verdict says. -/
theorem verdict_iff_lint {during : List EditorEvent} (hstays : doc.Stays during)
    (result : LintResult) (script : Script) :
    w.Verdict doc result script ↔ result = (w.lint Script.run doc during).1 ∧
      script = (w.lint Script.run doc during).2.2.checker := by
  refine ⟨fun h => ?_, ?_⟩
  · obtain ⟨hresult, hscript⟩ := lint_of_verdict h hstays
    exact ⟨hresult.symm, hscript.symm⟩
  · -- There is a verdict, and by the other direction it can be of no other lint than this one.
    rintro ⟨rfl, rfl⟩
    obtain ⟨result, script, hverdict⟩ := exists_verdict w doc
    obtain ⟨hresult, hscript⟩ := lint_of_verdict hverdict hstays
    rw [hresult, hscript]
    exact hverdict

end Workspace

end LintHost
