import LintHost.Proofs.Config.Resolution

/-!
# Project after project

A configuration begins with the settings and is changed by any number of configuration files. What
may change and what may not is told here over all of them at once, by an invariant that the settings
establish and each file keeps (`LintHost.EffectiveConfig.StemsFrom`): the words of the command are
those of the setting, in which there is at least one and no operator of a shell, so that there always
is an executable to run; incremental mode is only ever switched off; and the file that counts as the
configuration file is the last one.

The main statement is `LintHost.EffectiveConfig.stemsFrom_afterProjects`. It also says that the
settings fail where their command does, and with the same error.
-/

namespace LintHost

/-- A configuration file of a project: where it is and what it says. -/
structure ProjectFile where
  path : Path
  text : String

namespace EffectiveConfig

variable {settings : Settings} {config : EffectiveConfig}

/-- The configuration changed by one project's file after the other. -/
def afterProjects (config : EffectiveConfig) (files : List ProjectFile) : EffectiveConfig :=
  files.foldl (fun config file => config.applyProject file.path (Ini.parse file.text)) config

theorem afterProjects_concat (config : EffectiveConfig) (files : List ProjectFile)
    (file : ProjectFile) :
    config.afterProjects (files ++ [file]) =
      (config.afterProjects files).applyProject file.path (Ini.parse file.text) := by
  rw [afterProjects, List.foldl_concat]
  rfl

/-! ### The invariant -/

/-- **What holds of a configuration** that settings whose command has the given words and the files
of some projects have led to. -/
structure StemsFrom (settings : Settings) (words : List String) (files : List ProjectFile)
    (config : EffectiveConfig) : Prop where
  /-- The words are the command's. -/
  command_eq : config.command = words
  /-- The executable is the first of them, which is there, and the arguments are the others. -/
  executable_eq : words[0]? = some config.executable
  baseArguments_eq : words.drop 1 = config.baseArguments
  /-- Incremental mode was set, and no file has a say in it for the checker. -/
  incremental_iff : config.incremental = true ↔ settings.incrementalMode = true ∧
    ∀ file ∈ files, (Ini.parse file.text).hasKey "mypy" "incremental" = false
  cacheDirectory_eq : config.cacheDirectory = settings.incrementalCacheDirectory
  /-- The configuration file is the last one. -/
  configFile_eq : config.configFile = files.getLast?.map ProjectFile.path

/-- The settings establish it. -/
theorem exists_stemsFrom_nil {words : List String}
    (h : Command.parse settings.mypyCommand = .ok words) :
    ∃ config, ofSettings settings = .ok config ∧ StemsFrom settings words [] config := by
  obtain ⟨hsplits, hne⟩ := Command.parse_eq_ok_iff.mp h
  cases words with
  | nil => exact absurd rfl hne
  | cons executable arguments =>
    refine ⟨_, (Given.words hsplits).eq, rfl, rfl, rfl, ?_, rfl, rfl⟩
    exact (and_iff_left (List.forall_mem_nil _)).symm

/-- Each file keeps it. -/
theorem StemsFrom.applyProject {words : List String} {files : List ProjectFile}
    (h : StemsFrom settings words files config) (file : ProjectFile) :
    StemsFrom settings words (files ++ [file])
      (config.applyProject file.path (Ini.parse file.text)) where
  command_eq := h.command_eq
  executable_eq := h.executable_eq
  baseArguments_eq := h.baseArguments_eq
  incremental_iff := by
    rw [EffectiveConfig.applyProject, checkerSection, incrementalKey, Bool.and_eq_true,
      h.incremental_iff, Bool.not_eq_true', and_assoc]
    simp only [List.forall_mem_append, List.forall_mem_singleton]
  cacheDirectory_eq := h.cacheDirectory_eq
  configFile_eq := by
    rw [List.getLast?_concat]
    rfl

theorem StemsFrom.afterProjects {words : List String} (h : StemsFrom settings words [] config)
    (files : List ProjectFile) : StemsFrom settings words files (config.afterProjects files) := by
  induction files using List.reverseRecOn with
  | nil => exact h
  | append_singleton files file ih =>
    rw [afterProjects_concat]
    exact ih.applyProject file

/-- **Every configuration that settings and projects lead to.** It exists unless the command of the
settings is refused or empty, which is then the error; and after any number of files it has the words
of that command, so that the first can be run with the others, asks for incremental mode only if the
settings do and no file has the key in the section of the checker, and keeps the rest of the settings.
Incremental mode that a file has switched off stays so. A file has the key if one of its lines below a
header of that section mentions it, in letters of any case; what other sections say does not count. -/
theorem stemsFrom_afterProjects (settings : Settings) :
    (∀ e, ofSettings settings = .error e ↔ Command.parse settings.mypyCommand = .error e) ∧
      (∀ text, (Ini.parse text).hasKey "mypy" "incremental" = true ↔
        Ini.Mentions text "mypy" "incremental".toList) ∧
      ∀ words, Command.parse settings.mypyCommand = .ok words →
        Command.Splits settings.mypyCommand words ∧ words ≠ [] ∧
          ∃ config, ofSettings settings = .ok config ∧
            ∀ files, StemsFrom settings words files (config.afterProjects files) ∧
              ∀ more, (config.afterProjects files).incremental = false →
                (config.afterProjects (files ++ more)).incremental = false := by
  refine ⟨fun e => ofSettings_eq_error_iff,
    fun text => Ini.hasKey_parse_iff isPlainLetter_incrementalKey, fun words hparse => ?_⟩
  obtain ⟨hsplits, hne⟩ := Command.parse_eq_ok_iff.mp hparse
  obtain ⟨config, hconfig, hstems⟩ := exists_stemsFrom_nil hparse
  refine ⟨hsplits, hne, config, hconfig, fun files => ⟨hstems.afterProjects files, fun more => ?_⟩⟩
  have hbefore := (hstems.afterProjects files).incremental_iff
  have hafter := (hstems.afterProjects (files ++ more)).incremental_iff
  rw [← Bool.not_eq_true, ← Bool.not_eq_true, hbefore, hafter]
  exact mt fun h => ⟨h.1, fun file hfile => h.2 file (List.mem_append_left _ hfile)⟩

/-- The key counts in any case and with any value, also before another file without it, and in no
other section. -/
theorem stemsFrom_afterProjects_switched_off :
    let settings : Settings := { mypyCommand := "mypy --strict", incrementalMode := true }
    let words : List String := ["mypy", "--strict"]
    let silent : ProjectFile := ⟨⟨"/p/setup.cfg"⟩, "[mypy_lint]\nincremental = False\n[Mypy]\n"⟩
    let telling : ProjectFile := ⟨⟨"/p/mypy.ini"⟩, "[mypy]\n INCREMENTAL:\n"⟩
    Command.parse settings.mypyCommand = .ok words ∧
      ∃ config, ofSettings settings = .ok config ∧
        StemsFrom settings words [telling, silent] (config.afterProjects [telling, silent]) ∧
        (config.afterProjects [silent]).incremental = true ∧
        (config.afterProjects [telling]).incremental = false ∧
        (config.afterProjects [telling, silent]).incremental = false ∧
        (config.afterProjects [telling, silent]).configFile = some ⟨"/p/setup.cfg"⟩ := by
  intro settings words silent telling
  have hparse : Command.parse settings.mypyCommand = .ok words :=
    Command.parse_eq_ok_iff.mpr ⟨⟨by decide +kernel, by decide +kernel⟩, by decide⟩
  obtain ⟨-, -, config, hconfig, hall⟩ := (stemsFrom_afterProjects settings).2.2 words hparse
  have hon : (config.afterProjects [silent]).incremental = true :=
    (hall [silent]).1.incremental_iff.mpr (by decide +kernel)
  have hoff : (config.afterProjects [telling]).incremental = false := by
    rw [← Bool.not_eq_true, (hall [telling]).1.incremental_iff]
    decide +kernel
  have hboth := (hall [telling, silent]).1
  exact ⟨hparse, config, hconfig, hboth, hon, hoff, (hall [telling]).2 [silent] hoff,
    hboth.configFile_eq⟩

end EffectiveConfig

end LintHost
