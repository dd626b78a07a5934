import LintHost.Config.Effective
import LintHost.Proofs.Config.Command

/-!
# What settings give by themselves

Before any configuration file is looked at, the settings have either failed or given a configuration,
and all that decides about it is their command. `LintHost.EffectiveConfig.Given` lists the three cases
by what the command is, and `LintHost.EffectiveConfig.given_iff` says that they are what
`LintHost.EffectiveConfig.ofSettings` comes to. Whoever needs to know what settings give goes by the
cases and not by the way in which the command is taken apart.
-/

namespace LintHost.EffectiveConfig

variable {settings : Settings} {config : EffectiveConfig}

/-- **What settings give by themselves**: an error about their command, or the configuration that
holds its words and the other settings as they are. -/
inductive Given (settings : Settings) : Except ConfigError EffectiveConfig → Prop
  /-- The command does not split into plain words. -/
  | refused {fault : CommandFault} (h : Command.Refused settings.mypyCommand fault) :
    Given settings (.error (.invalidCommand settings.mypyCommand fault))
  /-- The command has no words. -/
  | empty (h : Command.Splits settings.mypyCommand []) : Given settings (.error .emptyCommand)
  /-- The command has words, the first of which is the executable. -/
  | words {executable : String} {arguments : List String}
      (h : Command.Splits settings.mypyCommand (executable :: arguments)) :
    Given settings (.ok
      { executable, baseArguments := arguments, searchPath := settings.envMypyPath,
        incremental := settings.incrementalMode,
        cacheDirectory := settings.incrementalCacheDirectory, configFile := none })

theorem Given.eq {given : Except ConfigError EffectiveConfig}
    (h : Given settings given) : ofSettings settings = given := by
  rw [ofSettings]
  cases h with
  | refused h =>
    rw [Command.parse_of_refused h]
    rfl
  | empty h =>
    rw [Command.parse_of_splits h, if_pos rfl]
    rfl
  | words h =>
    rw [Command.parse_of_splits h, if_neg (List.cons_ne_nil _ _)]
    rfl

theorem exists_given (settings : Settings) : ∃ given, Given settings given := by
  obtain ⟨fault, h⟩ | ⟨words, h⟩ := Command.refused_or_splits settings.mypyCommand
  · exact ⟨_, .refused h⟩
  · cases words with
    | nil => exact ⟨_, .empty h⟩
    | cons executable arguments => exact ⟨_, .words h⟩

theorem given_iff {given : Except ConfigError EffectiveConfig} :
    Given settings given ↔ ofSettings settings = given := by
  refine ⟨Given.eq, ?_⟩
  rintro rfl
  obtain ⟨given, h⟩ := exists_given settings
  rwa [h.eq]

/-- **The settings fail where their command does**, with the error of the command. -/
theorem ofSettings_eq_error_iff {e : ConfigError} :
    ofSettings settings = .error e ↔ Command.parse settings.mypyCommand = .error e := by
  rcases Command.refused_or_splits settings.mypyCommand with ⟨fault, h⟩ | ⟨words, h⟩
  · rw [(Given.refused h).eq, Command.parse_of_refused h, Except.error.injEq, Except.error.injEq]
  · cases words with
    | nil =>
      rw [(Given.empty h).eq, Command.parse_of_splits h, if_pos rfl, Except.error.injEq,
        Except.error.injEq]
    | cons executable arguments =>
      rw [(Given.words h).eq, Command.parse_of_splits h, if_neg (List.cons_ne_nil _ _)]
      exact ⟨nofun, nofun⟩

/-- Settings name no configuration file. -/
theorem configFile_of_ofSettings (h : ofSettings settings = .ok config) :
    config.configFile = none := by
  cases given_iff.mpr h with
  | words => rfl

/-- The directories that come first are those of the settings. -/
theorem searchPath_of_ofSettings (h : ofSettings settings = .ok config) :
    config.searchPath = settings.envMypyPath := by
  cases given_iff.mpr h with
  | words => rfl

end LintHost.EffectiveConfig
