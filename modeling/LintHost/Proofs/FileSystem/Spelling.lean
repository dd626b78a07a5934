import LintHost.FileSystem
import LintHost.Proofs.Path.Spelling

/-!
# What stands at two spellings of one path

Looking a path up follows every one of its segments, silent ones included, and refuses texts that
are too long, so two spellings of one path need not lead to the same. A path below a directory
does not care how the directory is spelled, though: each silent segment of the directory is
looked up in the directory that the next segment is looked up in anyway
(`LintHost.FileSystem.follow_append_filter`). Only the length remains, and where both texts are
short enough the same stands there (`LintHost.FileSystem.look_join_of_components_eq`).
-/

namespace LintHost.FileSystem

/-- Looking a silent segment up leads nowhere else, if another segment follows. -/
theorem follow_cons_silent (fs : FileSystem) (here : Location) {segment : List Char}
    (hsilent : Path.isSilent segment = true) {rest : List (List Char)} (hrest : rest ≠ []) :
    fs.follow here (segment :: rest) = fs.follow here rest := by
  cases rest with
  | nil => exact absurd rfl hrest
  | cons next rest =>
    cases hhere : fs.entryAt? here with
    | none => simp only [follow, hhere]
    | some entry =>
      cases entry with
      | file content => simp only [follow, hhere]
      | directory => rw [follow, hhere, if_pos hsilent]

/-- **Silent segments do not matter**, except at the end. -/
theorem follow_append_filter (fs : FileSystem) (here : Location) (front : List (List Char))
    {back : List (List Char)} (hback : back ≠ []) :
    fs.follow here (front.filter (fun s => !Path.isSilent s) ++ back) =
      fs.follow here (front ++ back) := by
  induction front generalizing here with
  | nil => rfl
  | cons segment front ih =>
    have hne : front ++ back ≠ [] := List.append_ne_nil_of_right_ne_nil _ hback
    by_cases hsilent : Path.isSilent segment = true
    · rw [List.filter_cons_of_neg (by simp [hsilent]), List.cons_append,
        follow_cons_silent fs here hsilent hne, ih]
    · rw [List.filter_cons_of_pos (by simp [hsilent]), List.cons_append, List.cons_append, follow,
        follow, ih, ih, ih]

theorem nul_mem_iff {cs : List Char} : '\x00' ∈ cs ↔ ∃ s ∈ Path.visible cs, '\x00' ∈ s := by
  have hjoin : ∀ {pieces : List (List Char)},
      '\x00' ∈ Text.join '/' pieces ↔ ∃ s ∈ pieces, '\x00' ∈ s := by
    intro pieces
    induction pieces with
    | nil => simp [Text.join]
    | cons piece pieces ih =>
      cases pieces with
      | nil => simp [Text.join]
      | cons next pieces =>
        rw [Text.join_cons_cons, List.mem_append, List.mem_cons, ih]
        simp
  rw [← Text.join_splitOn '/' cs, hjoin, Text.join_splitOn]
  constructor
  · rintro ⟨s, hs, hnul⟩
    refine ⟨s, List.mem_filter.mpr ⟨hs, ?_⟩, hnul⟩
    rw [Bool.not_eq_true', Bool.eq_false_iff]
    intro hsilent
    rcases (by simpa [Path.isSilent] using hsilent : s = [] ∨ s = ['.']) with rfl | rfl <;>
      simp at hnul
  · rintro ⟨s, hs, hnul⟩
    exact ⟨s, (List.mem_filter.mp hs).1, hnul⟩

/-- Where a path below a directory leads to, in terms of what the components of the directory say
of it. -/
theorem locate_join {fs : FileSystem} {p q : Path} (hq : q.isAbsolute = false) (hp : p.chars ≠ [])
    (hsize : (p.join q).text.utf8ByteSize < pathLimit) :
    fs.locate (p.join q) =
      if (∃ s ∈ Path.visible p.chars ++ Path.visible q.chars, '\x00' ∈ s) then .error .nulInName
      else fs.follow (if p.isAbsolute then [] else fs.current)
        (Path.visible p.chars ++ Text.splitOn '/' q.chars) := by
  obtain ⟨front, hjoin, hfront⟩ := Path.chars_join hq hp
  have hvisible : Path.visible front = Path.visible p.chars := by
    rcases hfront with hfront | hfront
    · rw [hfront]
    · rw [hfront, Path.visible_append_slash]
  have hsplit : Text.splitOn '/' (p.join q).chars =
      Text.splitOn '/' front ++ Text.splitOn '/' q.chars := by
    rw [hjoin, Text.splitOn_append_cons]
  have hne : (p.join q).chars ≠ [] := by simp [hjoin]
  have habsolute : (p.join q).isAbsolute = p.isAbsolute := by
    rw [Bool.eq_iff_iff, Path.isAbsolute_iff_anchor, Path.isAbsolute_iff_anchor,
      Path.anchor_join hq hp]
  have hnul : '\x00' ∈ (p.join q).chars ↔
      ∃ s ∈ Path.visible p.chars ++ Path.visible q.chars, '\x00' ∈ s := by
    rw [nul_mem_iff, Path.visible_join hq hp]
  rw [locate, if_neg hne, if_neg (Nat.not_le.mpr hsize), habsolute, hsplit,
    ← follow_append_filter fs _ _ (Text.splitOn_ne_nil _ _), ← Path.visible, hvisible]
  simp only [hnul]

/-- **Below two spellings of one directory** the same stands, if neither text is too long. -/
theorem look_join_of_components_eq {p p' : Path} (h : p.components = p'.components) (q : Path)
    (hsize : (p.join q).text.utf8ByteSize < pathLimit)
    (hsize' : (p'.join q).text.utf8ByteSize < pathLimit) (fs : FileSystem) :
    fs.look (p.join q) = fs.look (p'.join q) := by
  by_cases hq : q.isAbsolute = true
  · rw [Path.join, if_pos hq, Path.join, if_pos hq]
  · rw [Bool.not_eq_true] at hq
    have hnil := Path.chars_eq_nil_iff_of_components_eq h
    by_cases hp : p.chars = []
    · rw [Path.join_of_chars_eq_nil hp, Path.join_of_chars_eq_nil (hnil.mp hp)]
    · have hp' : p'.chars ≠ [] := fun hp' => hp (hnil.mpr hp')
      rw [look, look, locate_join hq hp hsize, locate_join hq hp' hsize',
        (Path.components_eq_iff.mp h).2, Path.isAbsolute_eq_of_components_eq h]

/-- What is too long leads nowhere. -/
theorem isFile_of_pathLimit_le {fs : FileSystem} {p : Path}
    (h : pathLimit ≤ p.text.utf8ByteSize) : fs.isFile p = false := by
  have hlocate : ∃ cause, fs.locate p = .error cause := by
    rw [locate]
    split
    · exact ⟨_, rfl⟩
    · split
      · exact ⟨_, rfl⟩
      · exact ⟨_, rfl⟩
  obtain ⟨cause, hcause⟩ := hlocate
  rw [isFile, look, hcause]
  rfl

/-- Below a directory whose own path is too long nothing is found either. -/
theorem isFile_join_of_pathLimit_le {fs : FileSystem} {p q : Path} (hq : q.isAbsolute = false)
    (h : pathLimit ≤ p.text.utf8ByteSize) : fs.isFile (p.join q) = false := by
  refine isFile_of_pathLimit_le (Nat.le_trans h ?_)
  rw [Path.join, if_neg (by simp [hq])]
  split
  · rw [String.utf8ByteSize_append]
    omega
  · rw [String.utf8ByteSize_append, String.utf8ByteSize_append]
    omega

section Look

variable {fs : FileSystem} {p p' : Path} (h : fs.look p = fs.look p')
include h

theorem isFile_congr : fs.isFile p = fs.isFile p' := by
  rw [isFile, isFile, h]

theorem readText_congr : fs.readText p = fs.readText p' := by
  rw [readText, readText, read, read, h]

end Look

end LintHost.FileSystem
