import LintHost.Proofs.Config.Given
import LintHost.Proofs.Path.Enclosing
import LintHost.Proofs.Resolver.Memory
import LintHost.Proofs.Roots.Innermost

/-!
# The directory that a file is checked from

The checker runs in the directory of the configuration file, else in the root of the file, else in
the file's own directory. The three have different origins: the first is found by walking up, and
perhaps remembered from a walk that started at another spelling of the file's directory; the second
was given by the editor; the third is read off the file. All of them enclose the file
(`LintHost.encloses_workingDirectory`), and for an absolute file with absolute roots all of them are
absolute.

Which of the three is taken is told by `LintHost.workingDirectory_of_configFile`,
`LintHost.workingDirectory_of_root` and `LintHost.workingDirectory_of_no_root`. For a configuration
file the rest takes three steps. Whatever the finder has been through, what it finds
for a directory is a place to look at from some spelling of that directory
(`LintHost.Resolver.mem_candidates_of_find`); such a place is a name below a directory above it
(`LintHost.Finder.exists_parent?_of_mem_candidates`); and a configuration that was resolved for a
file has no other configuration file than the one that was found
(`LintHost.configFile_of_resolveConfig`).
-/

namespace LintHost

/-! ### The configuration file -/

/-- **What a finder finds for a directory**, whatever happened to it before, is a place to look at
from a directory with the same components. -/
theorem Resolver.mem_candidates_of_find (names : List String) (before : FileSystem)
    (events : List Event) (fs : FileSystem) {directory path : Path}
    (h : (((start names before).run events).finder.find fs directory).1 = some path) :
    ∃ looked : Path, looked.components = directory.components ∧
      path ∈ Finder.candidates names looked := by
  -- The file system of the lookup is put in place by one more event, which the finder ignores.
  have hfind := (recalls_run names before (events ++ [.files fs])).find_eq directory
  rw [run_concat] at hfind
  exact ⟨_, Epoch.components_first _ directory, List.mem_of_find?_eq_some (hfind.symm.trans h)⟩

/-- A place to look at is a name below the directory or one above it. -/
theorem Finder.exists_parent?_of_mem_candidates {names : List String} {directory path : Path}
    (hnames : ∀ name ∈ names, FileSystem.IsName name) (h : path ∈ candidates names directory) :
    ∃ above parent, above ∈ directory.ancestors ∧ path.parent? = some parent ∧
      parent.components = above.components := by
  obtain ⟨above, habove, hplace⟩ := List.mem_flatMap.mp h
  obtain ⟨name, hname, rfl⟩ := List.mem_map.mp hplace
  obtain ⟨parent, hparent, hsame⟩ := Path.exists_parent?_join_name above (hnames name hname)
  exact ⟨above, parent, habove, hparent, hsame⟩

/-- A file that is applied is named, and otherwise nothing changes. -/
theorem EffectiveConfig.configFile_of_withFile {config config' : EffectiveConfig} {fs : FileSystem}
    {found : Option Path} (h : config.withFile fs found = .ok config') :
    config'.configFile = found.or config.configFile := by
  cases found with
  | none =>
    obtain rfl := Except.ok.inj h
    rfl
  | some path =>
    rw [withFile] at h
    split at h
    · simp at h
    · obtain rfl := Except.ok.inj h
      rfl

/-- **A configuration has the configuration file that was found for it.** -/
theorem configFile_of_resolveConfig {finder : Finder} {fs : FileSystem} {settings : Settings}
    {file : Path} {config : EffectiveConfig}
    (h : (resolveConfig finder fs settings file).1 = .ok config) :
    config.configFile = (finder.find fs (startDirectory file)).1 := by
  rw [resolveConfig_eq] at h
  cases hsettings : EffectiveConfig.ofSettings settings with
  | error e => simp [hsettings] at h
  | ok plain =>
    rw [hsettings] at h
    rw [EffectiveConfig.configFile_of_withFile h,
      EffectiveConfig.configFile_of_ofSettings hsettings, Option.or_none]

/-! ### The working directory -/

variable {file : Path} {name : String}

/-- The search starts from an absolute directory if the file is absolute. -/
theorem isAbsolute_startDirectory (h : file.isAbsolute = true) :
    (startDirectory file).isAbsolute = true := by
  rw [startDirectory]
  cases hparent : file.parent? with
  | none => exact h
  | some parent => exact Path.isAbsolute_of_mem_above h (List.mem_of_head? hparent)

/-- The directory that the search starts from is that of the file, and encloses it. -/
theorem encloses_startDirectory (hname : file.fileName? = some name) :
    file.parent? = some (startDirectory file) ∧ (startDirectory file).Encloses file := by
  obtain ⟨parent, hparent, -⟩ := Path.exists_parent?_of_fileName? hname
  rw [startDirectory, hparent]
  exact ⟨rfl, Path.encloses_of_mem_above (List.mem_of_head? hparent)⟩

/-- **The directory of the configuration file** that was found for a file encloses the file. -/
theorem exists_parent?_of_configFile {names : List String} {before fs : FileSystem}
    {events : List Resolver.Event} {settings : Settings} {config : EffectiveConfig} {path : Path}
    (hnames : ∀ name ∈ names, FileSystem.IsName name) (hfile : file.isAbsolute = true)
    (hname : file.fileName? = some name)
    (h : (resolveConfig ((Resolver.start names before).run events).finder fs settings file).1 =
      .ok config)
    (hpath : config.configFile = some path) :
    ∃ parent, path.parent? = some parent ∧ parent.isAbsolute = true ∧ parent.Encloses file := by
  obtain ⟨looked, hlooked, hmem⟩ :=
    Resolver.mem_candidates_of_find names before events fs
      ((configFile_of_resolveConfig h).symm.trans hpath)
  obtain ⟨above, parent, habove, hparent, hsame⟩ :=
    Finder.exists_parent?_of_mem_candidates hnames hmem
  obtain ⟨-, hencloses⟩ := encloses_startDirectory hname
  have hlookedAbsolute : looked.isAbsolute = true :=
    (Path.isAbsolute_eq_of_components_eq hlooked).trans (isAbsolute_startDirectory hfile)
  -- The place is below the directory that was looked up, or below one above that.
  have hbelow : above.components <+: looked.components := by
    obtain rfl | habove := List.mem_cons.mp habove
    · exact List.prefix_refl _
    · exact (Path.encloses_of_mem_above habove).1
  have haboveAbsolute := Path.isAbsolute_of_mem_ancestors hlookedAbsolute habove
  refine ⟨parent, hparent, (Path.isAbsolute_eq_of_components_eq hsame).trans haboveAbsolute,
    hencloses.of_isPrefix ?_⟩
  rw [hsame, ← hlooked]
  exact hbelow

/-! ### The three directories -/

/-- A directory as a process can be started in it: the empty path is written as `.`. -/
def Path.entered (directory : Path) : Path :=
  if directory.text = "" then ⟨"."⟩ else directory

theorem Path.text_entered_ne (directory : Path) : directory.entered.text ≠ "" := by
  rw [entered]
  split
  · decide
  · assumption

theorem Path.entered_eq_self {directory : Path} (h : directory.text ≠ "") :
    directory.entered = directory :=
  if_neg h

section Cases

variable {config : EffectiveConfig} {file directory : Path} {roots : Roots}

theorem workingDirectory_of_configFile (h : config.configFile.bind Path.parent? = some directory) :
    workingDirectory config file roots = directory := by
  rw [workingDirectory, h]

theorem workingDirectory_of_root (hconfig : config.configFile = none)
    (h : roots.rootFor file = some directory) : workingDirectory config file roots = directory := by
  rw [workingDirectory, hconfig, Option.bind_none, h]

/-- The directory of the file is written so that it can be entered. -/
theorem workingDirectory_of_no_root (hconfig : config.configFile = none)
    (h : roots.rootFor file = none) :
    workingDirectory config file roots = (file.parent?.getD ⟨""⟩).entered := by
  rw [workingDirectory, hconfig, Option.bind_none, h]
  cases file.parent? <;> rfl

end Cases

/-! ### The one that is taken -/

/-- **The working directory encloses the file**, and like the file and the roots it is absolute,
whatever the finder has been through before it was asked for the configuration. -/
theorem encloses_workingDirectory {names : List String} {before fs : FileSystem}
    {events : List Resolver.Event} {settings : Settings} {config : EffectiveConfig} {roots : Roots}
    (hnames : ∀ name ∈ names, FileSystem.IsName name)
    (hroots : ∀ folder ∈ roots.folders, folder.isAbsolute = true)
    (hfile : file.isAbsolute = true) (hname : file.fileName? = some name)
    (h : (resolveConfig ((Resolver.start names before).run events).finder fs settings file).1 =
      .ok config) :
    (workingDirectory config file roots).isAbsolute = true ∧
      (workingDirectory config file roots).Encloses file := by
  cases hconfig : config.configFile with
  | some path =>
    obtain ⟨parent, hparent, hspec⟩ := exists_parent?_of_configFile hnames hfile hname h hconfig
    rw [workingDirectory_of_configFile (by rw [hconfig, Option.bind_some, hparent])]
    exact hspec
  | none =>
    obtain ⟨hnone, -⟩ | ⟨root, hroot, hinner⟩ := roots.rootFor_cases file
    · -- No root encloses the file, so its own directory is taken; being absolute it is not empty.
      obtain ⟨hparent, hencloses⟩ := encloses_startDirectory hname
      have habsolute := isAbsolute_startDirectory hfile
      rw [workingDirectory_of_no_root hconfig hnone, hparent, Option.getD_some,
        Path.entered_eq_self (Path.text_ne_of_isAbsolute habsolute)]
      exact ⟨habsolute, hencloses⟩
    · obtain ⟨folder, hfolder, hsame⟩ := hinner.isAmong
      rw [workingDirectory_of_root hconfig hroot]
      exact ⟨(Path.isAbsolute_eq_of_components_eq hsame).symm.trans (hroots folder hfolder),
        hinner.encloses⟩

end LintHost
