import LintHost.Proofs.Config.Projects
import LintHost.Proofs.Text.Pieces

/-!
# The directories of a search path

A search path is a text, but what counts are its entries: an empty text has none, and any other has
what stands between its colons (`LintHost.SearchPath.entries`). An entry may be empty, and then it
stands for the working directory. Project after project puts directories in front of those that are
there, so one expects the entries of the last project first and those of the settings last
(`LintHost.SearchPath.expected`).

This is so unless an empty text is put in front of something
(`LintHost.SearchPath.entries_extended_iff`): a colon is put between the two all the same, and an
empty entry comes out that nobody has asked for. Nothing else can happen: no entry is lost, the order
stays, and an entry that is not expected is empty.
-/

namespace LintHost

namespace SearchPath

/-! ### Entries -/

/-- **The entries of a search path.** -/
def entries (path : String) : List String :=
  if path = "" then [] else (Text.splitOn ':' path.toList).map String.ofList

theorem entries_empty : entries "" = [] := rfl

theorem entries_of_ne {path : String} (h : path ≠ "") :
    entries path = (Text.splitOn ':' path.toList).map String.ofList :=
  if_neg h

/-- **Putting directories in front of others** puts their entries in front. An empty text has none,
but becomes one where there is something after it. -/
theorem entries_prepend (front path : String) :
    entries (EffectiveConfig.prepend front path) =
      if path = "" then entries front
      else if front = "" then "" :: entries path
      else entries front ++ entries path := by
  rw [EffectiveConfig.prepend]
  by_cases hpath : path = ""
  · rw [if_pos hpath, if_pos hpath]
  · have hlist : (front ++ ":" ++ path).toList = front.toList ++ ':' :: path.toList := by
      simp [String.toList_append]
    have hne : front ++ ":" ++ path ≠ "" := by
      rw [← String.toList_inj.ne, hlist]
      exact List.append_ne_nil_of_right_ne_nil _ (List.cons_ne_nil _ _)
    rw [if_neg hpath, if_neg hpath, entries_of_ne hne, hlist, Text.splitOn_append_cons,
      List.map_append, ← entries_of_ne hpath]
    by_cases hfront : front = ""
    · subst hfront
      rfl
    · rw [if_neg hfront, entries_of_ne hfront]

theorem prepend_eq_empty_iff {front path : String} :
    EffectiveConfig.prepend front path = "" ↔ path = "" ∧ front = "" := by
  rw [EffectiveConfig.prepend]
  by_cases hpath : path = ""
  · rw [if_pos hpath]
    exact (and_iff_right hpath).symm
  · rw [if_neg hpath]
    refine iff_of_false (fun h => ?_) fun h => hpath h.1
    have hlist := congrArg String.toList h
    simp [String.toList_append] at hlist

/-! ### One after the other -/

/-- A search path after one text after the other has been put in front. -/
def extended (path : String) (fronts : List String) : String :=
  fronts.foldl (fun path front => EffectiveConfig.prepend front path) path

/-- The entries that one expects then: the last text counts first. -/
def expected (path : String) (fronts : List String) : List String :=
  fronts.reverse.flatMap entries ++ entries path

variable {path front : String} {fronts : List String}

theorem extended_concat :
    extended path (fronts ++ [front]) = EffectiveConfig.prepend front (extended path fronts) := by
  rw [extended, List.foldl_concat]
  rfl

theorem expected_concat :
    expected path (fronts ++ [front]) = entries front ++ expected path fronts := by
  rw [expected, List.reverse_concat, List.flatMap_cons, List.append_assoc]
  rfl

/-- There is nothing only if nothing was there and nothing was put in front. -/
theorem extended_eq_empty_iff : extended path fronts = "" ↔ ∀ text ∈ path :: fronts, text = "" := by
  induction fronts using List.reverseRecOn with
  | nil =>
    rw [List.forall_mem_singleton]
    rfl
  | append_singleton fronts front ih =>
    rw [extended_concat, prepend_eq_empty_iff, ih, ← List.cons_append, List.forall_mem_append,
      List.forall_mem_singleton]

/-- **One step**: the entries that are expected are put in front, and an empty one before them if
there is nothing to be put in front of something. -/
theorem entries_extended_concat :
    entries (extended path (fronts ++ [front])) =
      if front = "" ∧ extended path fronts ≠ "" then "" :: entries (extended path fronts)
      else entries front ++ entries (extended path fronts) := by
  rw [extended_concat, entries_prepend]
  by_cases hpath : extended path fronts = ""
  · rw [if_pos hpath, if_neg fun h => h.2 hpath, hpath, entries_empty, List.append_nil]
  · rw [if_neg hpath]
    by_cases hfront : front = ""
    · rw [if_pos hfront, if_pos ⟨hfront, hpath⟩]
    · rw [if_neg hfront, if_neg fun h => hfront h.1]

/-- **Nothing is lost**, and the order stays. -/
theorem expected_sublist : (expected path fronts).Sublist (entries (extended path fronts)) := by
  induction fronts using List.reverseRecOn with
  | nil => exact List.Sublist.refl _
  | append_singleton fronts front ih =>
    rw [entries_extended_concat, expected_concat]
    split
    · next h =>
      rw [h.1, entries_empty, List.nil_append]
      exact ih.cons _
    · exact (List.Sublist.refl _).append ih

/-- **Nothing is added but empty entries.** -/
theorem filter_entries_extended :
    (entries (extended path fronts)).filter (· ≠ "") = (expected path fronts).filter (· ≠ "") := by
  induction fronts using List.reverseRecOn with
  | nil => rfl
  | append_singleton fronts front ih =>
    rw [entries_extended_concat, expected_concat, List.filter_append, ← ih]
    split
    · next h =>
      rw [h.1, entries_empty, List.filter_nil, List.nil_append]
      exact List.filter_cons_of_neg (by simp)
    · rw [List.filter_append]

/-- No empty text is put in front of something. -/
def Filled (path : String) (fronts : List String) : Prop :=
  (path :: fronts).Pairwise fun earlier later => later = "" → earlier = ""

theorem filled_concat :
    Filled path (fronts ++ [front]) ↔
      Filled path fronts ∧ (front = "" → extended path fronts = "") := by
  rw [Filled, ← List.cons_append, List.pairwise_append, extended_eq_empty_iff]
  simp only [List.pairwise_singleton, true_and, List.mem_singleton, forall_eq]
  exact and_congr_right fun _ => ⟨fun h hfront text htext => h text htext hfront,
    fun h text htext hfront => h hfront text htext⟩

/-- **The entries are the expected ones** exactly if no empty text is put in front of something. The
induction is on the texts from the last one back, with which the step begins. -/
theorem entries_extended_iff :
    entries (extended path fronts) = expected path fronts ↔ Filled path fronts := by
  induction fronts using List.reverseRecOn with
  | nil => exact iff_of_true rfl (List.pairwise_singleton _ _)
  | append_singleton fronts front ih =>
    rw [entries_extended_concat, expected_concat, filled_concat, ← ih]
    split
    · next h =>
      -- The entry that is too many cannot be made up for: nothing else is missing.
      obtain ⟨rfl, hpath⟩ := h
      refine iff_of_false (fun heq => ?_) fun h => hpath (h.2 rfl)
      have hlength := congrArg List.length heq
      rw [entries_empty, List.nil_append, List.length_cons] at hlength
      have hle : (expected path fronts).length ≤ (entries (extended path fronts)).length :=
        expected_sublist.length_le
      omega
    · next h =>
      rw [List.append_right_inj]
      refine (and_iff_left fun hfront => ?_).symm
      by_contra hpath
      exact h ⟨hfront, hpath⟩

end SearchPath

/-! ### The configuration of a project -/

open SearchPath

/-- The directories that a project's file names for the checker to look for modules in. -/
def ProjectFile.front? (file : ProjectFile) : Option String :=
  (Ini.parse file.text).get? "mypy_lint" "mypypath"

namespace EffectiveConfig

variable {settings : Settings} {config : EffectiveConfig}

theorem searchPath_afterProjects (config : EffectiveConfig) (files : List ProjectFile) :
    (config.afterProjects files).searchPath =
      extended config.searchPath (files.filterMap ProjectFile.front?) := by
  induction files using List.reverseRecOn with
  | nil => rfl
  | append_singleton files file ih =>
    rw [afterProjects_concat, applyProject, linterSection, searchPathKey, List.filterMap_append,
      ← ProjectFile.front?]
    cases hfront : file.front? with
    | none => rw [List.filterMap_cons_none hfront, List.filterMap_nil, List.append_nil, ← ih]
    | some front =>
      rw [List.filterMap_cons_some hfront, List.filterMap_nil, extended_concat, ← ih]

/-- **The entries of the search path after any number of projects.** They are those that the projects
name, the last project first, and then those of the settings, exactly if no project sets the search
path to nothing where there is something already. Then an empty entry is one that the settings or a
project has. In any case no entry is missing and all that are too many are empty. -/
theorem entries_searchPath_afterProjects (h : ofSettings settings = .ok config)
    (files : List ProjectFile) :
    let fronts := files.filterMap ProjectFile.front?
    let result := entries (config.afterProjects files).searchPath
    (result = expected settings.envMypyPath fronts ↔ Filled settings.envMypyPath fronts) ∧
      (Filled settings.envMypyPath fronts → "" ∈ result →
        ∃ text ∈ settings.envMypyPath :: fronts, "" ∈ entries text) ∧
      (expected settings.envMypyPath fronts).Sublist result ∧
      result.filter (· ≠ "") = (expected settings.envMypyPath fronts).filter (· ≠ "") := by
  intro fronts result
  have hresult : result = entries (extended settings.envMypyPath fronts) := by
    rw [← searchPath_of_ofSettings h, ← searchPath_afterProjects]
  rw [hresult]
  refine ⟨entries_extended_iff, fun hfilled hempty => ?_, expected_sublist, filter_entries_extended⟩
  rw [entries_extended_iff.mpr hfilled, expected, List.mem_append, List.mem_flatMap] at hempty
  rcases hempty with ⟨text, htext, hempty⟩ | hempty
  · exact ⟨text, List.mem_cons_of_mem _ (List.mem_reverse.mp htext), hempty⟩
  · exact ⟨_, List.mem_cons_self, hempty⟩

/-- Two of three projects name directories, the first of them two and an empty entry between them. -/
theorem entries_searchPath_afterProjects_empty_between :
    let files : List ProjectFile :=
      [⟨⟨"/p/mypy.ini"⟩, "[mypy_lint]\nmypypath = stubs::typings\n"⟩,
        ⟨⟨"/p/q/mypy.ini"⟩, "[mypy]\nmypypath = other\n"⟩,
        ⟨⟨"/p/q/r/setup.cfg"⟩, "[mypy_lint]\nMypyPath: local\n"⟩]
    ∃ config, ofSettings { mypyCommand := "mypy", envMypyPath := "/global" } = .ok config ∧
      Filled "/global" (files.filterMap ProjectFile.front?) ∧
      entries (config.afterProjects files).searchPath =
        ["local", "stubs", "", "typings", "/global"] := by
  intro files
  have hfilled : Filled "/global" (files.filterMap ProjectFile.front?) := by
    have hfronts : files.filterMap ProjectFile.front? = ["stubs::typings", "local"] := by
      decide +kernel
    rw [hfronts, Filled]
    decide
  have hsplits : Command.Splits "mypy" ["mypy"] := ⟨by decide +kernel, by decide +kernel⟩
  have hconfig : ofSettings { mypyCommand := "mypy", envMypyPath := "/global" } = .ok _ :=
    given_iff.mp (.words hsplits)
  refine ⟨_, hconfig, hfilled, ?_⟩
  rw [(entries_searchPath_afterProjects hconfig files).1.mpr hfilled]
  decide +kernel

/-- A project that sets the search path to nothing puts an empty entry in front of those of the
settings, which is neither expected nor an entry of anything that was put together. -/
theorem not_forall_expected :
    (¬∀ (settings : Settings) (config : EffectiveConfig) (files : List ProjectFile),
        ofSettings settings = .ok config →
        entries (config.afterProjects files).searchPath =
          expected settings.envMypyPath (files.filterMap ProjectFile.front?)) ∧
      ¬∀ (settings : Settings) (config : EffectiveConfig) (files : List ProjectFile),
        ofSettings settings = .ok config →
        "" ∈ entries (config.afterProjects files).searchPath →
        ∃ text ∈ settings.envMypyPath :: files.filterMap ProjectFile.front?,
          "" ∈ entries text := by
  have hsplits : Command.Splits "mypy" ["mypy"] := ⟨by decide +kernel, by decide +kernel⟩
  have hconfig : ofSettings { mypyCommand := "mypy", envMypyPath := "/global/stubs" } = .ok _ :=
    given_iff.mp (.words hsplits)
  constructor
  · intro hall
    have h := hall _ _ [⟨⟨"/p/mypy.ini"⟩, "[mypy_lint]\nmypypath =\n"⟩] hconfig
    revert h
    decide +kernel
  · intro hall
    have h := hall _ _ [⟨⟨"/p/mypy.ini"⟩, "[mypy_lint]\nmypypath =\n"⟩] hconfig
    revert h
    decide +kernel

end EffectiveConfig

end LintHost
