import LintHost.Proofs.Config.Given
import LintHost.Proofs.Config.Mentioned
import LintHost.Proofs.Resolver.History

/-!
# What a resolution comes to

`LintHost.resolveConfig` goes step by step: it splits the command, looks at one place after the
other, reads what it finds there and changes the configuration. Here its result is told without the
steps, by three relations, none of which says in which order anything is tried.

* `LintHost.EffectiveConfig.Given`: what settings give by themselves. Their command is refused, or
  has no words, or gives the configuration field by field.
* `LintHost.Finder.Nearest`: the configuration file of a directory. No directory further in has any
  of the names, and no earlier name is in the same directory; so the nearer directory counts more
  than the order of the names, and what is no regular file does not count at all.
* `LintHost.EffectiveConfig.Changed`: what the text of that file changes and what it leaves.

The rules of `LintHost.Resolution` put them together. With nothing remembered, the result of a
resolution is the one that the rules give (`LintHost.resolution_iff_resolveConfig`); in particular
there always is one, and only one.
-/

namespace LintHost

/-! ### The text of the file -/

namespace EffectiveConfig

/-- **What the text of a configuration file changes**: it is named as the configuration file, its
directories come before those of the settings, and incremental mode is not asked for if the text
mentions it in the section of the checker, whatever it says about it there. -/
structure Changed (config : EffectiveConfig) (path : Path) (text : String)
    (changed : EffectiveConfig) : Prop where
  executable : changed.executable = config.executable
  baseArguments : changed.baseArguments = config.baseArguments
  cacheDirectory : changed.cacheDirectory = config.cacheDirectory
  configFile : changed.configFile = some path
  /-- Directories are put in front, with a colon between them and what was there. -/
  extended : ∀ front, (Ini.parse text).get? "mypy_lint" "mypypath" = some front →
    changed.searchPath =
      if config.searchPath = "" then front else front ++ ":" ++ config.searchPath
  /-- A text without such directories leaves the search path. -/
  kept : (Ini.parse text).get? "mypy_lint" "mypypath" = none →
    changed.searchPath = config.searchPath
  incremental : changed.incremental = true ↔
    config.incremental = true ∧ ¬Ini.Mentions text "mypy" "incremental".toList

/-- No two letters are lowered to one letter of the key for incremental mode. -/
theorem isPlainLetter_incrementalKey : ∀ c ∈ incrementalKey.toList, Text.IsPlainLetter c := by
  have hall : incrementalKey.toList.all (fun c => decide (Text.IsPlainLetter c)) = true := by
    decide +kernel
  simpa using hall

theorem changed_applyProject (config : EffectiveConfig) (path : Path) (text : String) :
    config.Changed path text (config.applyProject path (Ini.parse text)) where
  executable := rfl
  baseArguments := rfl
  cacheDirectory := rfl
  configFile := rfl
  extended front hfront := by
    rw [applyProject, linterSection, searchPathKey, hfront]
    rfl
  kept hnone := by
    rw [applyProject, linterSection, searchPathKey, hnone]
  incremental := by
    have hmentions : (Ini.parse text).hasKey checkerSection incrementalKey = true ↔
        Ini.Mentions text checkerSection incrementalKey.toList :=
      Ini.hasKey_parse_iff isPlainLetter_incrementalKey
    rw [checkerSection, incrementalKey] at hmentions
    rw [applyProject, checkerSection, incrementalKey, Bool.and_eq_true, ← hmentions,
      Bool.not_eq_true', Bool.not_eq_true]

theorem withFile_of_text (config : EffectiveConfig) {fs : FileSystem} {path : Path} {text : String}
    (h : fs.read path = .ok (.text text)) :
    config.withFile fs (some path) = .ok (config.applyProject path (Ini.parse text)) := by
  rw [withFile, FileSystem.readText, h]
  rfl

/-- A text changes a configuration to one other at most. -/
theorem Changed.unique {config changed changed' : EffectiveConfig} {path : Path} {text : String}
    (h : config.Changed path text changed) (h' : config.Changed path text changed') :
    changed = changed' := by
  have hpath : changed.searchPath = changed'.searchPath := by
    cases hget : (Ini.parse text).get? "mypy_lint" "mypypath" with
    | none => rw [h.kept hget, h'.kept hget]
    | some front => rw [h.extended front hget, h'.extended front hget]
  have hincremental : changed.incremental = changed'.incremental := by
    rw [Bool.eq_iff_iff, h.incremental, h'.incremental]
  have hexecutable := h.executable.trans h'.executable.symm
  have harguments := h.baseArguments.trans h'.baseArguments.symm
  have hcache := h.cacheDirectory.trans h'.cacheDirectory.symm
  have hfile := h.configFile.trans h'.configFile.symm
  cases changed
  cases changed'
  simp_all

end EffectiveConfig

/-! ### The nearest configuration file -/

/-- A regular file stands at a path, with a content. -/
def FileSystem.Holds (fs : FileSystem) (path : Path) (content : Content) : Prop :=
  fs.look path = .ok (.file content)

theorem FileSystem.isFile_iff {fs : FileSystem} {path : Path} :
    fs.isFile path = true ↔ ∃ content, fs.Holds path content := by
  rw [isFile]
  simp only [Holds]
  split
  · next content h => simp [h]
  · next h => simpa using h

theorem FileSystem.read_of_holds {fs : FileSystem} {path : Path} {content : Content}
    (h : fs.Holds path content) : fs.read path = .ok content := by
  rw [read, h]
  rfl

namespace Finder

variable {names : List String} {fs : FileSystem} {directory path : Path}

/-- **The nearest configuration file of a directory**, with its content: a regular file with one of
the names, such that none of the names is that of a regular file in a directory further in, and no
name before it that of a regular file in the same directory. -/
inductive Nearest (names : List String) (fs : FileSystem) (directory : Path) :
    Path → Content → Prop
  | intro {inner outer : List Path} {above : Path} {before after : List String} {name : String}
      {content : Content} (directories : directory.ancestors = inner ++ above :: outer)
      (order : names = before ++ name :: after)
      (further : ∀ other ∈ inner, ∀ n ∈ names, ∀ c, ¬fs.Holds (other.join ⟨n⟩) c)
      (earlier : ∀ n ∈ before, ∀ c, ¬fs.Holds (above.join ⟨n⟩) c)
      (found : fs.Holds (above.join ⟨name⟩) content) :
    Nearest names fs directory (above.join ⟨name⟩) content

/-- No directory above has a regular file with any of the names. -/
def Bare (names : List String) (fs : FileSystem) (directory : Path) : Prop :=
  ∀ above ∈ directory.ancestors, ∀ name ∈ names, ∀ content, ¬fs.Holds (above.join ⟨name⟩) content

/-- The first of the names that is that of a regular file in a directory. -/
theorem find?_names_eq_none_iff {above : Path} :
    (names.map fun name => above.join ⟨name⟩).find? fs.isFile = none ↔
      ∀ name ∈ names, ∀ content, ¬fs.Holds (above.join ⟨name⟩) content := by
  rw [List.find?_eq_none]
  simp only [List.mem_map, forall_exists_index, and_imp, forall_apply_eq_imp_iff₂,
    FileSystem.isFile_iff, not_exists]

theorem find?_names_eq_some_iff {above : Path} :
    (names.map fun name => above.join ⟨name⟩).find? fs.isFile = some path ↔
      ∃ before name after content, names = before ++ name :: after ∧
        (∀ n ∈ before, ∀ c, ¬fs.Holds (above.join ⟨n⟩) c) ∧ fs.Holds (above.join ⟨name⟩) content ∧
        path = above.join ⟨name⟩ := by
  rw [List.find?_map, Option.map_eq_some_iff]
  simp only [List.find?_eq_some_iff_append, Function.comp_apply, FileSystem.isFile_iff,
    Bool.not_eq_true', ← Bool.not_eq_true, not_exists]
  constructor
  · rintro ⟨name, ⟨⟨content, hfound⟩, before, after, horder, hearlier⟩, rfl⟩
    exact ⟨before, name, after, content, horder, hearlier, hfound, rfl⟩
  · rintro ⟨before, name, after, content, horder, hearlier, hfound, rfl⟩
    exact ⟨name, ⟨⟨content, hfound⟩, before, after, horder, hearlier⟩, rfl⟩

/-- **A search finds the nearest configuration file.** -/
theorem search_eq_some_iff {finder : Finder} :
    finder.search fs directory = some path ↔
      ∃ content, Nearest finder.names fs directory path content := by
  rw [search, candidates, List.find?_flatMap, List.findSome?_eq_some_iff]
  simp only [find?_names_eq_none_iff, find?_names_eq_some_iff]
  constructor
  · rintro ⟨inner, above, outer, hdirectories, ⟨before, name, after, content, horder, hearlier,
      hfound, rfl⟩, hfurther⟩
    exact ⟨content, .intro hdirectories horder hfurther hearlier hfound⟩
  · rintro ⟨content, hnearest⟩
    cases hnearest with
    | intro hdirectories horder hfurther hearlier hfound =>
      exact ⟨_, _, _, hdirectories, ⟨_, _, _, content, horder, hearlier, hfound, rfl⟩, hfurther⟩

/-- A search finds nothing exactly where there is nothing to find. -/
theorem search_eq_none_iff {finder : Finder} :
    finder.search fs directory = none ↔ Bare finder.names fs directory := by
  rw [search, candidates, List.find?_flatMap, List.findSome?_eq_none_iff]
  simp only [find?_names_eq_none_iff, Bare]

/-- With nothing remembered, what is found is what a search finds. -/
theorem find_fresh (names : List String) (fs : FileSystem) (directory : Path) :
    ((fresh names).find fs directory).1 = (fresh names).search fs directory :=
  rfl

/-- What is found stands there. -/
theorem Nearest.holds {content : Content} (h : Nearest names fs directory path content) :
    fs.Holds path content := by
  cases h with
  | intro _ _ _ _ found => exact found

end Finder

/-! ### Resolving -/

/-- **The result of a resolution** for a file, by the settings, the names of configuration files
and the file system. -/
inductive Resolution (names : List String) (fs : FileSystem) (settings : Settings) (file : Path) :
    Except ConfigError EffectiveConfig → Prop
  /-- Settings with an error give it, whatever the files are. -/
  | refused {e : ConfigError} (given : EffectiveConfig.Given settings (.error e)) :
    Resolution names fs settings file (.error e)
  /-- Without a configuration file the settings decide alone. -/
  | alone {config : EffectiveConfig} (given : EffectiveConfig.Given settings (.ok config))
      (bare : Finder.Bare names fs (startDirectory file)) :
    Resolution names fs settings file (.ok config)
  /-- A configuration file that is not UTF-8 is named in an error. -/
  | unreadable {config : EffectiveConfig} {path : Path} {bytes : List UInt8}
      (given : EffectiveConfig.Given settings (.ok config))
      (nearest : Finder.Nearest names fs (startDirectory file) path (.binary bytes)) :
    Resolution names fs settings file (.error (.unreadable path .invalidUtf8))
  /-- Any other changes what the settings say. -/
  | changed {config changed : EffectiveConfig} {path : Path} {text : String}
      (given : EffectiveConfig.Given settings (.ok config))
      (nearest : Finder.Nearest names fs (startDirectory file) path (.text text))
      (change : config.Changed path text changed) :
    Resolution names fs settings file (.ok changed)

/-- With nothing remembered, what is applied is what a search finds. -/
theorem resolveConfig_fresh (names : List String) (fs : FileSystem) (settings : Settings)
    (file : Path) :
    (resolveConfig (.fresh names) fs settings file).1 =
      match EffectiveConfig.ofSettings settings with
      | .error e => .error e
      | .ok config =>
        config.withFile fs ((Finder.fresh names).search fs (startDirectory file)) := by
  rw [resolveConfig_eq, ← Finder.find_fresh]
  cases EffectiveConfig.ofSettings settings <;> rfl

theorem Resolution.eq {names : List String} {fs : FileSystem} {settings : Settings} {file : Path}
    {result : Except ConfigError EffectiveConfig} (h : Resolution names fs settings file result) :
    (resolveConfig (.fresh names) fs settings file).1 = result := by
  rw [resolveConfig_fresh]
  cases h with
  | refused given => rw [given.eq]
  | alone given bare =>
    rw [given.eq, Finder.search_eq_none_iff.mpr bare]
    rfl
  | unreadable given nearest =>
    rw [given.eq, Finder.search_eq_some_iff.mpr ⟨_, nearest⟩]
    exact EffectiveConfig.withFile_of_binary _ (FileSystem.read_of_holds nearest.holds)
  | changed given nearest change =>
    rw [given.eq, Finder.search_eq_some_iff.mpr ⟨_, nearest⟩,
      change.unique (EffectiveConfig.changed_applyProject _ _ _)]
    exact EffectiveConfig.withFile_of_text _ (FileSystem.read_of_holds nearest.holds)

theorem exists_resolution (names : List String) (fs : FileSystem) (settings : Settings)
    (file : Path) : ∃ result, Resolution names fs settings file result := by
  obtain ⟨given, hgiven⟩ := EffectiveConfig.exists_given settings
  cases given with
  | error e => exact ⟨_, .refused hgiven⟩
  | ok config =>
    cases hsearch : (Finder.fresh names).search fs (startDirectory file) with
    | none => exact ⟨_, .alone hgiven (Finder.search_eq_none_iff.mp hsearch)⟩
    | some path =>
      obtain ⟨content, hnearest⟩ := Finder.search_eq_some_iff.mp hsearch
      cases content with
      | binary bytes => exact ⟨_, .unreadable hgiven hnearest⟩
      | text text =>
        exact ⟨_, .changed hgiven hnearest (EffectiveConfig.changed_applyProject _ _ _)⟩

/-- **With nothing remembered, a resolution has the result that the rules give**, and what settings
give by themselves is what they are read as: for every file system, list of names, settings and
file. -/
theorem resolution_iff_resolveConfig (names : List String) (fs : FileSystem) (settings : Settings)
    (file : Path) :
    (∀ given, EffectiveConfig.Given settings given ↔ EffectiveConfig.ofSettings settings = given) ∧
      ∀ result, Resolution names fs settings file result ↔
        (resolveConfig (.fresh names) fs settings file).1 = result := by
  refine ⟨fun given => EffectiveConfig.given_iff, fun result => ⟨Resolution.eq, ?_⟩⟩
  rintro rfl
  obtain ⟨result, h⟩ := exists_resolution names fs settings file
  rwa [h.eq]

end LintHost
