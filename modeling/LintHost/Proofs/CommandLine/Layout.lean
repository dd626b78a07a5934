import LintHost.CommandLine.Check
import LintHost.Proofs.Config.Directory
import LintHost.Proofs.Config.Resolution
import LintHost.Proofs.Lint.Isolation
import LintHost.Proofs.Lint.Placement
import LintHost.Proofs.Path.Canonical

/-!
# The command line in the directories as they are

From the command line a file is named relative to the current directory, with `.` and `..` in any
place. The search for the configuration file, the project root and the file's own directory are all
read off the spelling of a path, so a `..` that was left in would send each of them another way. The
file is therefore normalized first, and from a canonical current directory it becomes canonical
(`LintHost.Path.normalize_ofNames`); what follows can be told by lists of names.

`LintHost.RunsIn` tells where the checker is to run, by the names of the current directory and of
the file and by which directories have a configuration file. `LintHost.checkFile_in_layout` says
that it does run there, that it is given the normalized path as its last argument, and that what is
reported is about that path.
-/

namespace LintHost

open LintHost.Path

/-! ### Where the checker is to run -/

/-- A directory with a configuration file that is a regular file. -/
def Configured (fs : FileSystem) (directory : Path) : Prop :=
  fs.isFile (directory.join ⟨"mypy.ini"⟩) = true ∨ fs.isFile (directory.join ⟨"setup.cfg"⟩) = true

/-- **Where a file is checked from**, given the names of the current directory `root`, of the
directory `dirs` of the file, and the file's own name `last`. -/
inductive RunsIn (fs : FileSystem) (root dirs : List String) (last : String) : Path → Prop
  /-- The nearest directory above the file that has a configuration file. -/
  | configured {front : List String} (above : front <+: dirs)
      (has : Configured fs (ofNames front))
      (nearest : ∀ other, other <+: dirs → Configured fs (ofNames other) → other <+: front) :
    RunsIn fs root dirs last (ofNames front)
  /-- The current directory, where the file is inside it and no directory above the file has a
  configuration file. -/
  | inside (bare : ∀ other, other <+: dirs → ¬Configured fs (ofNames other))
      (isPrefix : root <+: dirs ++ [last]) (proper : root ≠ dirs ++ [last]) :
    RunsIn fs root dirs last (ofNames root)
  /-- The directory of the file, where the file is elsewhere. -/
  | outside (bare : ∀ other, other <+: dirs → ¬Configured fs (ofNames other))
      (elsewhere : ¬(root <+: dirs ++ [last] ∧ root ≠ dirs ++ [last])) :
    RunsIn fs root dirs last (ofNames dirs)

theorem isName_of_mem_configFileNames {name : String} (h : name ∈ configFileNames) :
    FileSystem.IsName name := by
  simp only [configFileNames, List.mem_cons, List.not_mem_nil, or_false] at h
  obtain rfl | rfl := h <;> exact ⟨by decide, by decide, by decide⟩

theorem configured_iff {fs : FileSystem} {directory : Path} :
    Configured fs directory ↔
      ∃ name ∈ configFileNames, ∃ content, fs.Holds (directory.join ⟨name⟩) content := by
  simp only [Configured, FileSystem.isFile_iff, configFileNames, List.mem_cons, List.not_mem_nil,
    or_false, exists_eq_or_imp, exists_eq_left]

variable {fs : FileSystem} {root dirs : List String} {last : String}

/-- **What a search finds** from a canonical directory: a file in the nearest directory that has a
configuration file, or nothing, where none has. -/
theorem search_ofNames (fs : FileSystem) (hdirs : Plain dirs) :
    ((Finder.fresh configFileNames).search fs (ofNames dirs) = none ∧
      ∀ other, other <+: dirs → ¬Configured fs (ofNames other)) ∨
    ∃ path front, (Finder.fresh configFileNames).search fs (ofNames dirs) = some path ∧
      path.parent? = some (ofNames front) ∧ front <+: dirs ∧ Configured fs (ofNames front) ∧
      ∀ other, other <+: dirs → Configured fs (ofNames other) → other <+: front := by
  cases hsearch : (Finder.fresh configFileNames).search fs (ofNames dirs) with
  | none =>
    refine .inl ⟨rfl, fun other hother hconfigured => ?_⟩
    obtain ⟨name, hname, content, hholds⟩ := configured_iff.mp hconfigured
    exact Finder.search_eq_none_iff.mp hsearch _ (ofNames_mem_ancestors hdirs hother) name hname
      content hholds
  | some path =>
    obtain ⟨content, hnearest⟩ := Finder.search_eq_some_iff.mp hsearch
    cases hnearest with
    | @intro inner outer above before after name content hcut horder hfurther _ hfound =>
      obtain ⟨front, hfront, rfl, hothers⟩ := split_ancestors hdirs hcut
      have hmem : name ∈ (Finder.fresh configFileNames).names := by
        rw [horder]
        exact List.mem_append_right before List.mem_cons_self
      have hplain : Plain (front ++ [name]) :=
        (hdirs.of_isPrefix hfront).concat (isName_of_mem_configFileNames hmem)
      refine .inr ⟨_, front, rfl, ?_, hfront, configured_iff.mpr ⟨name, hmem, content, hfound⟩, ?_⟩
      · rw [join_ofNames hplain.of_append hplain.isName, parent?_ofNames hplain]
      · intro other hother hconfigured
        obtain ⟨name', hname', content', hholds⟩ := configured_iff.mp hconfigured
        exact (hothers other hother).resolve_right fun hinner =>
          hfurther _ hinner name' hname' content' hholds

/-- With one folder open, that is the root of what it encloses. -/
theorem Roots.rootFor_singleton (folder file : Path) :
    Roots.rootFor ⟨[folder]⟩ file = if encloses folder file then some folder else none := by
  rw [rootFor, List.filter_singleton]
  cases encloses folder file <;> rfl

/-- **The directory that is chosen** for a configuration is the one to run in. -/
theorem runsIn_workingDirectory (hroot : Plain root) (hfile : Plain (dirs ++ [last]))
    {config : EffectiveConfig}
    (hconfig : config.configFile = (Finder.fresh configFileNames).search fs (ofNames dirs)) :
    RunsIn fs root dirs last
      (workingDirectory config (ofNames (dirs ++ [last])) ⟨[ofNames root]⟩) := by
  obtain ⟨hnone, hbare⟩ | ⟨path, front, hsome, hparent, hfront, hhas, hnearest⟩ :=
    search_ofNames fs hfile.of_append
  · have hconfig := hconfig.trans hnone
    have hencloses := encloses_ofNames_iff hroot hfile
    have hroots := Roots.rootFor_singleton (ofNames root) (ofNames (dirs ++ [last]))
    by_cases hinside : Roots.encloses (ofNames root) (ofNames (dirs ++ [last])) = true
    · obtain ⟨hbelow, hproper⟩ := hencloses.mp (Roots.encloses_eq_true_iff.mp hinside)
      rw [workingDirectory_of_root hconfig (hroots.trans (if_pos hinside))]
      exact .inside hbare hbelow hproper
    · rw [workingDirectory_of_no_root hconfig (hroots.trans (if_neg hinside)),
        parent?_ofNames hfile, Option.getD_some,
        entered_eq_self (text_ne_of_isAbsolute (isAbsolute_ofNames dirs))]
      exact .outside hbare fun h =>
        hinside (Roots.encloses_eq_true_iff.mpr (hencloses.mpr h))
  · rw [workingDirectory_of_configFile (by rw [hconfig, hsome, Option.bind_some, hparent])]
    exact .configured hfront hhas hnearest

/-! ### The command -/

/-- The document that is linted is the file, in whatever way its text comes. -/
theorem path_of_checkDocument {path : Path} {stdin : Option String} {buffer : Buffer}
    (h : checkDocument fs path stdin = .ok buffer) : buffer.path = some path := by
  cases stdin with
  | some text =>
    obtain rfl := Except.ok.inj h
    rfl
  | none =>
    rw [checkDocument] at h
    split at h
    · obtain rfl := Except.ok.inj h
      rfl
    · simp at h

/-- The workspace of a command: one folder, and nothing remembered. -/
def commandWorkspace {σ : Type} (state : σ) (fs : FileSystem) (options : CheckOptions)
    (currentDirectory : Path) : Workspace σ where
  session := { settings := ⟨options.settings⟩, roots := ⟨[currentDirectory]⟩ }
  files := fs
  checker := state

/-- A command that gets as far as a document lints it. -/
theorem checkFile_of_document {σ : Type} {checker : Checker σ} {state : σ} {options : CheckOptions}
    {directory : Path} {stdin : Option String} {buffer : Buffer}
    (h : checkDocument fs (normalize directory options.file) stdin = .ok buffer) :
    checkFile checker state fs options directory stdin =
      let lint := (commandWorkspace state fs options directory).lint checker buffer.view []
      (lint.1.map (·.getD []), lint.2.2.files, lint.2.2.checker) := by
  simp only [checkFile, h, commandWorkspace]

theorem checkFile_of_error {σ : Type} {checker : Checker σ} {state : σ} {options : CheckOptions}
    {directory : Path} {stdin : Option String} {e : LintError}
    (h : checkDocument fs (normalize directory options.file) stdin = .error e) :
    checkFile checker state fs options directory stdin = (.error e, fs, state) := by
  rw [checkFile, h]

theorem exists_of_map_eq_ok {ε α β : Type} {f : α → β} {result : Except ε α} {b : β}
    (h : result.map f = .ok b) : ∃ a, result = .ok a ∧ f a = b := by
  cases result with
  | error e => exact absurd h nofun
  | ok a => exact ⟨a, rfl, Except.ok.inj h⟩

/-- What a lint reports is about the path of the document. -/
theorem Workspace.file_of_lint {σ : Type} {checker : Checker σ} {w : Workspace σ}
    {doc : DocumentView} {path : Path} (hpath : doc.path = some path) {during : List EditorEvent}
    {ds : List Diagnostic} (h : (w.lint checker doc during).1 = .ok (some ds)) :
    ∀ d ∈ ds, d.file = path := by
  rw [lint_eq checker w hpath] at h
  have hfindings := findings_check checker w (doc.target path)
  rw [(Lint.settle_eq_some_iff.mp h).1] at hfindings
  intro d hd
  cases hfindings with
  | notice message details =>
    obtain rfl := List.mem_singleton.mp hd
    rfl
  | report output directory =>
    obtain ⟨entry, rfl⟩ := mem_parseReport hd
    rfl

theorem Invocation.getLast?_arguments (config : EffectiveConfig) (file : Path)
    (shadow cache : Option Path) :
    (arguments config file shadow cache).getLast? = some file.text := by
  unfold arguments
  exact List.getLast?_concat

/-- **A call that is made for a command** runs in the directory to run in, and is given the file as
its last argument. -/
theorem runsIn_of_mem_calls {σ : Type} {state : σ} {options : CheckOptions} {doc : DocumentView}
    {call : Call} (hroot : Plain root) (hfile : Plain (dirs ++ [last]))
    (hcall : call ∈ (commandWorkspace state fs options (ofNames root)).calls
      (doc.target (ofNames (dirs ++ [last])))) :
    call.plan.arguments.getLast? = some (ofNames (dirs ++ [last])).text ∧
      RunsIn fs root dirs last call.plan.workingDirectory := by
  obtain ⟨config, files, shadow, cache, hconfig, -, rfl, -, -⟩ :=
    Workspace.shows_of_mem_calls hcall
  -- Nothing is remembered, so what was found for the file is what a search finds.
  have hfound : config.configFile = (Finder.fresh configFileNames).search fs (ofNames dirs) := by
    have hstart : startDirectory (ofNames (dirs ++ [last])) = ofNames dirs := by
      rw [startDirectory, parent?_ofNames hfile, Option.getD_some]
    rw [Workspace.configFor] at hconfig
    rw [← hstart, ← Finder.find_fresh]
    exact configFile_of_resolveConfig hconfig
  refine ⟨?_, runsIn_workingDirectory hroot hfile hfound⟩
  exact Invocation.getLast?_arguments config _ shadow cache

end LintHost
