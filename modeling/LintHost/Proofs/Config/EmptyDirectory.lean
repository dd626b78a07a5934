import LintHost.Proofs.Config.Directory
import LintHost.Proofs.Config.Resolution

/-!
# Where the working directory is the empty path

The parent of a bare file name is the empty path. It stands for the current directory, but no process
can be started in it, so whoever takes a parent for a directory has to write `.` for it
(`LintHost.Path.entered`). `LintHost.workingDirectory` does so for the directory of the file and not
for that of the configuration file, and a search from a relative directory ends at the empty path. So
there are files for which the working directory cannot be entered, and
`LintHost.workingDirectory_of_resolveConfig` says which: those whose configuration file was found in the
empty path, by its bare name. All other files are checked from the directory that they should be
(`LintHost.CheckedFrom`), which includes all files with absolute paths, whatever the names of
configuration files are and whatever has been looked up before.

What is found has a parent at all because it is a regular file: a path without one is the root or leads
nowhere (`LintHost.FileSystem.exists_parent?_of_isFile`).
-/

namespace LintHost

/-! ### Regular files have a parent -/

/-- Silent segments lead from the root nowhere else. -/
theorem FileSystem.follow_root_of_silent (fs : FileSystem) {segments : List (List Char)}
    (h : ∀ segment ∈ segments, Path.isSilent segment = true) : fs.follow [] segments = .ok [] := by
  induction segments with
  | nil => rfl
  | cons segment rest ih =>
    obtain ⟨hsegment, hrest⟩ := List.forall_mem_cons.mp h
    rw [follow, entryAt?, if_pos rfl]
    simp only [hsegment, if_true]
    exact ih hrest

/-- A path without a parent is the empty path, or all of its segments are silent. -/
theorem Path.silent_of_parent?_eq_none {path : Path} (h : path.parent? = none)
    (hne : path.chars ≠ []) :
    path.isAbsolute = true ∧ ∀ segment ∈ Text.splitOn '/' path.chars, isSilent segment = true := by
  have habove := map_components_above hne
  rw [List.head?_eq_none_iff.mp h, List.map_nil] at habove
  -- Above a visible segment there is what stands before it, and above a leading dot the empty path.
  cases hvisible : (visible path.chars).reverse with
  | cons segment rest => simp [hvisible, aboveComponents] at habove
  | nil =>
    rw [List.reverse_eq_nil_iff] at hvisible
    rw [hvisible, List.reverse_nil, aboveComponents] at habove
    constructor
    · rw [isAbsolute_iff_anchor]
      obtain hanchor | hanchor | hanchor := anchor_cases path
      · exact hanchor
      · simp [hanchor] at habove
      · exact absurd (chars_eq_nil_iff.mpr ⟨hanchor, hvisible⟩) hne
    · simpa [visible] using hvisible

/-- **Where a regular file stands there is a parent.** -/
theorem FileSystem.exists_parent?_of_isFile {fs : FileSystem} {path : Path}
    (h : fs.isFile path = true) : ∃ parent, path.parent? = some parent := by
  rw [← Option.isSome_iff_exists, ← Option.ne_none_iff_isSome]
  intro hnone
  have hlook : ∃ cause, fs.look path = .error cause ∨ fs.look path = .ok .directory := by
    rw [look, locate]
    split
    · exact ⟨_, .inl rfl⟩
    · next hne =>
      obtain ⟨habsolute, hsilent⟩ := Path.silent_of_parent?_eq_none hnone hne
      split
      · exact ⟨_, .inl rfl⟩
      · split
        · exact ⟨_, .inl rfl⟩
        · rw [follow_root_of_silent fs hsilent]
          exact ⟨.other, .inr rfl⟩
  obtain ⟨cause, hlook | hlook⟩ := hlook <;> simp [isFile, hlook] at h

/-! ### What is found -/

namespace Resolver

variable {names : List String} {before fs : FileSystem} {events : List Event}
  {directory path : Path}

/-- **What a finder finds for a directory** has been a regular file when it was searched for. -/
theorem exists_isFile_of_find
    (h : (((start names before).run events).finder.find fs directory).1 = some path) :
    ∃ earlier : FileSystem, earlier.isFile path = true := by
  have hfind := (recalls_run names before (events ++ [.files fs])).find_eq directory
  rw [run_concat] at hfind
  exact ⟨_, List.find?_some (hfind.symm.trans h)⟩

/-- What is found for an absolute directory is below an absolute directory. -/
theorem isAbsolute_of_find (hdirectory : directory.isAbsolute = true)
    (h : (((start names before).run events).finder.find fs directory).1 = some path) :
    path.isAbsolute = true := by
  obtain ⟨looked, hlooked, hmem⟩ := mem_candidates_of_find names before events fs h
  have hlookedAbsolute : looked.isAbsolute = true :=
    (Path.isAbsolute_eq_of_components_eq hlooked).trans hdirectory
  obtain ⟨above, habove, hplace⟩ := List.mem_flatMap.mp hmem
  obtain ⟨name, -, rfl⟩ := List.mem_map.mp hplace
  rw [Path.isAbsolute_join, Path.isAbsolute_of_mem_ancestors hlookedAbsolute habove, Bool.or_true]

end Resolver

/-! ### The directory that is meant, and the one that is taken -/

/-- **The directory that a file is to be checked from**: that of the configuration file that was found
for it, else the innermost root that encloses it, else its own. The root of the file system is in no
directory, and counts as being in the current one. -/
inductive CheckedFrom (found : Option Path) (roots : Roots) (file : Path) : Path → Prop
  | configured {path directory : Path} (found_eq : found = some path)
      (above : path.parent? = some directory) : CheckedFrom found roots file directory
  | rooted {root : Path} (found_eq : found = none)
      (is_root : roots.rootFor file = some root)
      (innermost : Roots.Innermost (Roots.Listed · roots.folders) file root) :
      CheckedFrom found roots file root
  | own (found_eq : found = none)
      (outside : ∀ folder, Roots.Listed folder roots.folders → ¬folder.Encloses file) :
      CheckedFrom found roots file (file.parent?.getD ⟨""⟩)

/-- A root that encloses a file is spelled, if the folders are. -/
theorem Roots.Innermost.text_ne {roots : Roots} {file root : Path}
    (hroots : ∀ folder ∈ roots.folders, folder.text ≠ "")
    (h : Innermost (Listed · roots.folders) file root) : root.text ≠ "" := by
  obtain ⟨folder, hfolder, hsame⟩ := h.isAmong
  intro hempty
  have hnil : folder.chars = [] :=
    (Path.chars_eq_nil_iff_of_components_eq hsame).mpr (by rw [Path.chars, hempty]; rfl)
  exact hroots folder hfolder (String.toList_eq_nil_iff.mp hnil)

/-- **Where a file is checked from.** Whatever the finder has been through, the working directory for
the configuration that was resolved for a file is the directory that is meant, written so that it can
be entered, unless that directory is the empty path and is the one of the configuration file: then, and
only then, the working directory is empty. It never is for a file with an absolute path. -/
theorem workingDirectory_of_resolveConfig {names : List String} {before fs : FileSystem}
    {events : List Resolver.Event} {settings : Settings} {file : Path} {roots : Roots}
    {config : EffectiveConfig} (hroots : ∀ folder ∈ roots.folders, folder.text ≠ "")
    (h : (resolveConfig ((Resolver.start names before).run events).finder fs settings file).1 =
      .ok config) :
    let found := (((Resolver.start names before).run events).finder.find fs
      (startDirectory file)).1
    ∃ directory, CheckedFrom found roots file directory ∧
      (found = none ∨ directory.text ≠ "" →
        workingDirectory config file roots = directory.entered) ∧
      ((workingDirectory config file roots).text = "" ↔ found ≠ none ∧ directory.text = "") ∧
      (file.isAbsolute = true → (workingDirectory config file roots).text ≠ "") := by
  intro found
  have hconfig : config.configFile = found := configFile_of_resolveConfig h
  cases hfound : found with
  | some path =>
    obtain ⟨earlier, hfile⟩ := Resolver.exists_isFile_of_find hfound
    obtain ⟨parent, hparent⟩ := FileSystem.exists_parent?_of_isFile hfile
    have htaken : workingDirectory config file roots = parent :=
      workingDirectory_of_configFile (by rw [hconfig, hfound, Option.bind_some, hparent])
    rw [htaken]
    refine ⟨parent, .configured rfl hparent, ?_, by simp, fun habsolute => ?_⟩
    · rintro (hnone | hne)
      · simp at hnone
      · exact (Path.entered_eq_self hne).symm
    · have hpath := Resolver.isAbsolute_of_find (isAbsolute_startDirectory habsolute) hfound
      exact Path.text_ne_of_isAbsolute
        (Path.isAbsolute_of_mem_above hpath (List.mem_of_head? hparent))
  | none =>
    have hconfig : config.configFile = none := hconfig.trans hfound
    obtain ⟨hnone, houtside⟩ | ⟨root, hroot, hinner⟩ := roots.rootFor_cases file
    · rw [workingDirectory_of_no_root hconfig hnone]
      have hne := Path.text_entered_ne (file.parent?.getD ⟨""⟩)
      exact ⟨_, .own rfl houtside, fun _ => rfl, by simp [hne], fun _ => hne⟩
    · rw [workingDirectory_of_root hconfig hroot]
      have hne := hinner.text_ne hroots
      exact ⟨root, .rooted rfl hroot hinner, fun _ => (Path.entered_eq_self hne).symm,
        by simp [hne], fun _ => hne⟩

/-- A file system with a configuration file in the current directory and one in the directory `a`. -/
def configuredHere : FileSystem where
  entries := [(["w"], .directory), (["w", "mypy.ini"], .file (.text "")),
    (["w", "a"], .directory), (["w", "a", "setup.cfg"], .file (.text ""))]
  current := ["w"]

/-- A configuration file with a text, once it is found, gives a configuration. -/
theorem exists_resolveConfig {finder : Finder} {fs : FileSystem} {settings : Settings}
    {file path : Path} {plain : EffectiveConfig} {text : String}
    (hplain : EffectiveConfig.ofSettings settings = .ok plain)
    (hfound : (finder.find fs (startDirectory file)).1 = some path)
    (hread : fs.read path = .ok (.text text)) :
    ∃ config, (resolveConfig finder fs settings file).1 = .ok config := by
  rw [resolveConfig_eq, hplain]
  simp only [hfound, EffectiveConfig.withFile_of_text plain hread]
  exact ⟨_, rfl⟩

/-- A relative file below a directory that was looked up in another spelling, and that has a
configuration file of its own. -/
theorem workingDirectory_of_resolveConfig_remembered :
    let resolver := (Resolver.start configFileNames configuredHere).run [.find ⟨"a/"⟩]
    let roots : Roots := ⟨[⟨"."⟩, ⟨"/v"⟩]⟩
    ∃ config, (resolveConfig resolver.finder configuredHere {} ⟨"a/b.py"⟩).1 = .ok config ∧
      (∀ folder ∈ roots.folders, folder.text ≠ "") ∧
      CheckedFrom (some ⟨"a/setup.cfg"⟩) roots ⟨"a/b.py"⟩ ⟨"a"⟩ ∧
      workingDirectory config ⟨"a/b.py"⟩ roots = (Path.mk "a").entered := by
  intro resolver roots
  have hroots : ∀ folder ∈ roots.folders, folder.text ≠ "" := by decide
  have hfound : (resolver.finder.find configuredHere (startDirectory ⟨"a/b.py"⟩)).1 =
      some ⟨"a/setup.cfg"⟩ := by
    decide +kernel
  obtain ⟨config, hresolved⟩ : ∃ config,
      (resolveConfig resolver.finder configuredHere {} ⟨"a/b.py"⟩).1 = .ok config :=
    exists_resolveConfig rfl hfound rfl
  obtain ⟨directory, hchecked, hentered, -⟩ := workingDirectory_of_resolveConfig hroots hresolved
  rw [hfound] at hchecked hentered
  have hparent : (Path.mk "a/setup.cfg").parent? = some ⟨"a"⟩ := by decide +kernel
  obtain rfl : directory = ⟨"a"⟩ := by
    cases hchecked with
    | configured found_eq above =>
      obtain rfl := Option.some.inj found_eq
      exact Option.some.inj (above.symm.trans hparent)
    | rooted found_eq => simp at found_eq
    | own found_eq => simp at found_eq
  exact ⟨config, hresolved, hroots, hchecked, hentered (.inr (by decide))⟩

/-- **A configuration file in the current directory** leaves a bare file name with an empty working
directory, where `.` would be right. -/
theorem not_forall_text_workingDirectory_ne :
    ¬∀ (fs : FileSystem) (settings : Settings) (file : Path) (roots : Roots)
        (config : EffectiveConfig), file.text ≠ "" →
      (∀ folder ∈ roots.folders, folder.text ≠ "") →
      (resolveConfig {} fs settings file).1 = .ok config →
      (workingDirectory config file roots).text ≠ "" := by
  intro hall
  have hfound : (Finder.find {} configuredHere (startDirectory ⟨"a.py"⟩)).1 =
      some ⟨"mypy.ini"⟩ := by
    decide +kernel
  have hparent : (Path.mk "mypy.ini").parent? = some ⟨""⟩ := by decide +kernel
  obtain ⟨config, hresolved⟩ : ∃ config,
      (resolveConfig {} configuredHere {} ⟨"a.py"⟩).1 = .ok config :=
    exists_resolveConfig rfl hfound rfl
  have hempty : workingDirectory config ⟨"a.py"⟩ {} = ⟨""⟩ :=
    workingDirectory_of_configFile
      (by rw [configFile_of_resolveConfig hresolved, hfound, Option.bind_some, hparent])
  exact hall configuredHere {} ⟨"a.py"⟩ {} config (by decide) (by simp) hresolved
    (by rw [hempty])

end LintHost
