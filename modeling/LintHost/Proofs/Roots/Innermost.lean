import LintHost.Roots
import LintHost.Proofs.Path.Enclosing
import LintHost.Proofs.Sequence.Lasting

/-!
# The innermost of the folders that are open

An editor replaces its folders, or adds some and removes others, again and again. The folders are
kept as a list, but what counts is which of them are in it, however they are spelled and however
often: a folder is in it if the last call that had a say about it has put it in
(`LintHost.Roots.listed_run_iff`).

The root of a file is the innermost folder that encloses it. There is no more than one, up to its
spelling, since two folders that enclose the same file and have equally many components have the
same ones (`LintHost.Roots.Innermost.components_eq`). So it makes no difference in which order the
folders are tried, and `LintHost.Roots.rootFor_run_innermost` can say what the root is by the calls
alone.
-/

namespace LintHost.Roots

/-! ### Calls -/

/-- What an editor does to the folders that are open. -/
inductive Call where
  | replace (folders : List Path)
  | update (added removed : List Path)

/-- The roots after a call. -/
def apply (roots : Roots) : Call → Roots
  | .replace folders => roots.replace folders
  | .update added removed => roots.update added removed

/-- The roots after some calls. -/
def run (roots : Roots) (calls : List Call) : Roots :=
  calls.foldl apply roots

theorem run_concat (roots : Roots) (calls : List Call) (call : Call) :
    roots.run (calls ++ [call]) = (roots.run calls).apply call := by
  rw [run, List.foldl_append]
  rfl

/-- A folder is listed if one with the same components is. -/
def Listed (folder : Path) (folders : List Path) : Prop :=
  ∃ f ∈ folders, f.components = folder.components

/-- A call that puts a folder in. -/
def Call.PutsIn (folder : Path) : Call → Prop
  | replace folders => Listed folder folders
  | update added _ => Listed folder added

/-- A call that takes a folder out. A folder that is both added and removed stays. -/
def Call.TakesOut (folder : Path) : Call → Prop
  | replace folders => ¬Listed folder folders
  | update added removed => Listed folder removed ∧ ¬Listed folder added

/-- **A folder is current** if some call has put it in and no later one has taken it out. -/
def Current (calls : List Call) (folder : Path) : Prop :=
  ∃ before call, Lasts (Call.TakesOut folder) calls before call ∧ call.PutsIn folder

theorem among_iff {folder : Path} {folders : List Path} :
    among folder folders = true ↔ Listed folder folders := by
  rw [among, List.any_eq_true]
  exact exists_congr fun f => and_congr_right fun _ => Path.same_iff.trans eq_comm

theorem Listed.congr {folder folder' : Path} (h : folder.components = folder'.components)
    {folders : List Path} : Listed folder folders ↔ Listed folder' folders := by
  rw [Listed, Listed, h]

/-- **A call** keeps what it neither puts in nor takes out. -/
theorem listed_apply_iff (roots : Roots) (call : Call) (folder : Path) :
    Listed folder (roots.apply call).folders ↔
      call.PutsIn folder ∨ (Listed folder roots.folders ∧ ¬call.TakesOut folder) := by
  cases call with
  | replace folders =>
    rw [apply, replace, Call.PutsIn, Call.TakesOut, not_not]
    exact ⟨Or.inl, fun h => h.elim id And.right⟩
  | update added removed =>
    -- A folder that was there before is kept in its own spelling, or given up for an added one.
    rw [apply, update, Call.PutsIn, Call.TakesOut, not_and_not_right]
    constructor
    · rintro ⟨f, hf, hsame⟩
      obtain hkept | hadded := List.mem_append.mp hf
      · obtain ⟨hf, hstays⟩ := List.mem_filter.mp hkept
        rw [Bool.and_eq_true, Bool.not_eq_true', Bool.not_eq_true', ← Bool.not_eq_true,
          ← Bool.not_eq_true, among_iff, among_iff, Listed.congr hsame] at hstays
        exact Or.inr ⟨⟨f, hf, hsame⟩, fun hremoved => absurd hremoved hstays.1⟩
      · exact Or.inl ⟨f, hadded, hsame⟩
    · rintro (⟨f, hf, hsame⟩ | ⟨⟨f, hf, hsame⟩, hstays⟩)
      · exact ⟨f, List.mem_append_right _ hf, hsame⟩
      · by_cases hadded : Listed folder added
        · obtain ⟨g, hg, hgsame⟩ := hadded
          exact ⟨g, List.mem_append_right _ hg, hgsame⟩
        · refine ⟨f, List.mem_append_left _ (List.mem_filter.mpr ⟨hf, ?_⟩), hsame⟩
          rw [Bool.and_eq_true, Bool.not_eq_true', Bool.not_eq_true', ← Bool.not_eq_true,
            ← Bool.not_eq_true, among_iff, among_iff, Listed.congr hsame, Listed.congr hsame]
          exact ⟨fun hremoved => hadded (hstays hremoved), hadded⟩

/-- **The folders that are kept** are the current ones. -/
theorem listed_run_iff (calls : List Call) (folder : Path) :
    Listed folder (run {} calls).folders ↔ Current calls folder := by
  rw [Current]
  induction calls using List.reverseRecOn with
  | nil => simp [run, Listed, not_lasts_nil]
  | append_singleton calls call ih =>
    rw [run_concat, listed_apply_iff, ih]
    simp only [lasts_concat_iff, or_and_right, exists_or]
    refine or_congr ?_ ?_
    · constructor
      · exact fun h => ⟨calls, call, ⟨rfl, rfl⟩, h⟩
      · rintro ⟨_, _, ⟨rfl, rfl⟩, h⟩
        exact h
    · constructor
      · rintro ⟨⟨before, c, hlasts, hputs⟩, hstays⟩
        exact ⟨before, c, ⟨hlasts, hstays⟩, hputs⟩
      · rintro ⟨before, c, ⟨hlasts, hstays⟩, hputs⟩
        exact ⟨⟨before, c, hlasts, hputs⟩, hstays⟩

/-! ### The innermost folder -/

/-- **The innermost** of some folders that enclose a file: none of them has more components. -/
structure Innermost (among : Path → Prop) (file root : Path) : Prop where
  isAmong : among root
  encloses : root.Encloses file
  deepest : ∀ other, among other → other.Encloses file →
    other.components.length ≤ root.components.length

/-- **There is one innermost folder**, up to its spelling. -/
theorem Innermost.components_eq {among : Path → Prop} {file root root' : Path}
    (h : Innermost among file root) (h' : Innermost among file root') :
    root.components = root'.components := by
  have hlength : root.components.length = root'.components.length :=
    Nat.le_antisymm (h'.deepest root h.isAmong h.encloses)
      (h.deepest root' h'.isAmong h'.encloses)
  exact (List.prefix_of_prefix_length_le h.encloses.1 h'.encloses.1
    (Nat.le_of_eq hlength)).eq_of_length hlength

theorem encloses_eq_true_iff {folder file : Path} :
    encloses folder file = true ↔ folder.Encloses file := by
  rw [encloses, Bool.and_eq_true, Bool.not_eq_true', ← Bool.not_eq_true, Path.same_iff,
    Path.startsWith, List.isPrefixOf_iff_prefix, Path.Encloses, and_comm, ne_comm]

/-- Going through some folders leaves one of them that no other exceeds. -/
theorem exists_foldl_inner (folders : List Path) (start : Path) :
    ∃ root, folders.foldl inner (some start) = some root ∧ root ∈ start :: folders ∧
      ∀ f ∈ start :: folders, f.components.length ≤ root.components.length := by
  induction folders generalizing start with
  | nil =>
    refine ⟨start, rfl, List.mem_cons_self, fun f hf => ?_⟩
    obtain rfl := List.mem_singleton.mp hf
    exact Nat.le_refl _
  | cons folder folders ih =>
    rw [List.foldl_cons, inner]
    -- Whichever of the two is taken on, it is no shallower than the other.
    by_cases hle : start.components.length ≤ folder.components.length
    · obtain ⟨root, hroot, hmem, hdeepest⟩ := ih folder
      refine ⟨root, by rw [if_pos hle, hroot], List.mem_cons_of_mem _ hmem, fun f hf => ?_⟩
      obtain rfl | hf := List.mem_cons.mp hf
      · exact Nat.le_trans hle (hdeepest folder List.mem_cons_self)
      · exact hdeepest f hf
    · obtain ⟨root, hroot, hmem, hdeepest⟩ := ih start
      have hstart := hdeepest start List.mem_cons_self
      refine ⟨root, by rw [if_neg hle, hroot], ?_, fun f hf => ?_⟩
      · obtain rfl | hmem := List.mem_cons.mp hmem
        · exact List.mem_cons_self
        · exact List.mem_cons_of_mem _ (List.mem_cons_of_mem _ hmem)
      · obtain rfl | hf := List.mem_cons.mp hf
        · exact hstart
        · obtain rfl | hf := List.mem_cons.mp hf
          · omega
          · exact hdeepest f (List.mem_cons_of_mem _ hf)

theorem mem_enclosing {folders : List Path} {file f : Path} :
    f ∈ folders.filter (encloses · file) ↔ f ∈ folders ∧ f.Encloses file := by
  rw [List.mem_filter, encloses_eq_true_iff]

/-- **The root of a file**: there is none if no folder encloses the file, and otherwise it is the
innermost one that does. -/
theorem rootFor_cases (roots : Roots) (file : Path) :
    (roots.rootFor file = none ∧
      ∀ folder, Listed folder roots.folders → ¬folder.Encloses file) ∨
    ∃ root, roots.rootFor file = some root ∧ Innermost (Listed · roots.folders) file root := by
  -- What encloses the file in some spelling does so in the spelling that is kept.
  have hlisted : ∀ {folder}, Listed folder roots.folders → folder.Encloses file →
      ∃ f ∈ roots.folders.filter (encloses · file), f.components = folder.components := by
    rintro folder ⟨f, hf, hsame⟩ hencloses
    rw [Path.Encloses, ← hsame] at hencloses
    exact ⟨f, mem_enclosing.mpr ⟨hf, hencloses⟩, hsame⟩
  rw [rootFor]
  cases hfolders : roots.folders.filter (encloses · file) with
  | nil =>
    refine Or.inl ⟨rfl, fun folder hfolder hencloses => ?_⟩
    obtain ⟨f, hf, -⟩ := hlisted hfolder hencloses
    simp [hfolders] at hf
  | cons first folders =>
    obtain ⟨root, hroot, hmem, hdeepest⟩ := exists_foldl_inner folders first
    rw [← hfolders] at hmem hdeepest
    obtain ⟨hmem, hencloses⟩ := mem_enclosing.mp hmem
    refine Or.inr ⟨root, hroot, ⟨root, hmem, rfl⟩, hencloses, fun other hother hbelow => ?_⟩
    obtain ⟨f, hf, hsame⟩ := hlisted hother hbelow
    rw [← hsame]
    exact hdeepest f hf

/-- **Folders behave as a set, and the innermost one wins.** After every sequence of calls, the
folders that are kept are those that the last call with a say about them has put in. A file has no
root exactly if none of them encloses it; otherwise its root is the innermost one that does, and up
to its spelling there is no other. So two sequences of calls that leave the same folders, in
whatever order, number and spelling, give a file the same root, up to its spelling. -/
theorem rootFor_run_innermost (calls : List Call) (file : Path) :
    (∀ folder, Listed folder (run {} calls).folders ↔ Current calls folder) ∧
    ((run {} calls).rootFor file = none ↔
      ∀ folder, Current calls folder → ¬folder.Encloses file) ∧
    (∀ root, (run {} calls).rootFor file = some root →
      Innermost (Current calls) file root ∧
      ∀ other, Innermost (Current calls) file other → other.components = root.components) ∧
    (∀ calls', (∀ folder, Current calls' folder ↔ Current calls folder) →
      ((run {} calls').rootFor file).map Path.components =
        ((run {} calls).rootFor file).map Path.components) := by
  -- Both sequences of calls have the same folders, so one description of the root fits both.
  have hroot : ∀ calls', (∀ folder, Current calls' folder ↔ Current calls folder) →
      ((run {} calls').rootFor file = none ∧
        ∀ folder, Current calls folder → ¬folder.Encloses file) ∨
      ∃ root, (run {} calls').rootFor file = some root ∧ Innermost (Current calls) file root := by
    intro calls' hsame
    have hlisted : (Listed · (run {} calls').folders) = Current calls :=
      funext fun folder => propext ((listed_run_iff calls' folder).trans (hsame folder))
    have hcases := rootFor_cases (run {} calls') file
    rw [hlisted] at hcases
    simpa only [listed_run_iff, hsame] using hcases
  have hself := hroot calls fun _ => Iff.rfl
  refine ⟨listed_run_iff calls, ?_, fun root hsome => ?_, fun calls' hsame => ?_⟩
  · obtain ⟨hnone, hno⟩ | ⟨root, hsome, hinner⟩ := hself
    · exact ⟨fun _ => hno, fun _ => hnone⟩
    · refine ⟨fun hnone => ?_, fun hno => absurd hinner.encloses (hno root hinner.isAmong)⟩
      simp [hnone] at hsome
  · obtain ⟨hnone, -⟩ | ⟨root', hsome', hinner⟩ := hself
    · simp [hnone] at hsome
    · obtain rfl := Option.some.inj (hsome'.symm.trans hsome)
      exact ⟨hinner, fun other hother => hother.components_eq hinner⟩
  · obtain ⟨hnone, hno⟩ | ⟨root, hsome, hinner⟩ := hself <;>
      obtain ⟨hnone', hno'⟩ | ⟨root', hsome', hinner'⟩ := hroot calls' hsame
    · rw [hnone, hnone']
    · exact absurd hinner'.encloses (hno root' hinner'.isAmong)
    · exact absurd hinner.encloses (hno' root hinner.isAmong)
    · rw [hsome, hsome', Option.map_some, Option.map_some, hinner'.components_eq hinner]

/-- A folder is given in two spellings and removed in a third one, all in the same call; since it
is added as well, it stays, and it is the root of a file that another folder encloses too. -/
theorem rootFor_run_innermost_added_and_removed :
    let calls : List Call :=
      [.replace [⟨"/w"⟩, ⟨"/other"⟩], .update [⟨"/w/in/"⟩, ⟨"/w//in"⟩] [⟨"/w/./in"⟩, ⟨"/other/"⟩]]
    let file : Path := ⟨"/w/in/a.py"⟩
    (run {} calls).rootFor file = some ⟨"/w//in"⟩ ∧
      Innermost (Current calls) file ⟨"/w//in"⟩ ∧ Current calls ⟨"/w"⟩ ∧
      ¬Current calls ⟨"/other"⟩ ∧ (run {} calls).rootFor ⟨"/other/b.py"⟩ = none ∧
      ∀ folder, Current calls folder → ¬folder.Encloses ⟨"/other/b.py"⟩ := by
  intro calls file
  have hroot : (run {} calls).rootFor file = some ⟨"/w//in"⟩ := by decide +kernel
  have hnone : (run {} calls).rootFor ⟨"/other/b.py"⟩ = none := by decide +kernel
  obtain ⟨hcurrent, -, hsome, -⟩ := rootFor_run_innermost calls file
  refine ⟨hroot, (hsome _ hroot).1, (hcurrent _).mp (among_iff.mp (by decide +kernel)), ?_, hnone,
    (rootFor_run_innermost calls ⟨"/other/b.py"⟩).2.1.mp hnone⟩
  rw [← hcurrent, ← among_iff]
  decide +kernel

end LintHost.Roots
