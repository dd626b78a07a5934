import Mathlib.Data.List.Find
import Mathlib.Data.List.Forall2
import LintHost.Config.Finder
import LintHost.Proofs.FileSystem.Spelling

/-!
# Searches from two spellings of one directory

The places where a configuration file of a directory may be are, one by one, the same for every
spelling of the directory, and as long as none of them is too long for the system
(`LintHost.Finder.Short`), the same stands there (`LintHost.Finder.forall₂_candidates`). Two such
spellings are interchangeable (`LintHost.Finder.Interchangeable`): a search finds the same file
from either, or none from both (`LintHost.Finder.search_rel`), and the path that it finds has the
same components (`LintHost.Finder.components_of_rel`).

Length is a true condition: a directory spelled with enough slashes has no configuration file,
whatever stands in it, and only what lies above it is found
(`LintHost.Finder.search_of_pathLimit_le`).
-/

namespace LintHost

/-- Two spellings of one path at which the same stands in every file system. -/
structure Path.SameFile (p p' : Path) : Prop where
  components : p.components = p'.components
  look : ∀ fs : FileSystem, fs.look p = fs.look p'

namespace Finder

/-- None of the places where a configuration file of a directory may be has a path that is too
long for the system. -/
def Short (names : List String) (directory : Path) : Prop :=
  ∀ place ∈ candidates names directory, place.text.utf8ByteSize < FileSystem.pathLimit

variable {names : List String} {directory directory' : Path}

/-- The places of two spellings of one directory, one by one. -/
theorem forall₂_candidates (h : directory.components = directory'.components)
    (hshort : Short names directory) (hshort' : Short names directory') :
    List.Forall₂ Path.SameFile (candidates names directory) (candidates names directory') := by
  have hancestors := Path.components_ancestors h
  rw [Short, candidates] at hshort hshort'
  rw [candidates, candidates]
  generalize directory.ancestors = above, directory'.ancestors = above' at *
  induction above generalizing above' with
  | nil =>
    obtain rfl : above' = [] := List.map_eq_nil_iff.mp hancestors.symm
    exact .nil
  | cons p above ih =>
    cases above' with
    | nil => simp at hancestors
    | cons p' above' =>
      obtain ⟨hp, hrest⟩ := List.cons.inj hancestors
      rw [List.flatMap_cons] at hshort hshort' ⊢
      rw [List.flatMap_cons]
      refine List.rel_append ?_ (ih above' (fun c hc => hshort c (List.mem_append_right _ hc))
        (fun c hc => hshort' c (List.mem_append_right _ hc)) hrest)
      rw [List.forall₂_map_left_iff, List.forall₂_map_right_iff, List.forall₂_same]
      intro name hname
      exact ⟨Path.components_join hp _, FileSystem.look_join_of_components_eq hp _
        (hshort _ (List.mem_append_left _ (List.mem_map_of_mem hname)))
        (hshort' _ (List.mem_append_left _ (List.mem_map_of_mem hname)))⟩

theorem find?_rel {α : Type} {R : α → α → Prop} {f : α → Bool} (hf : ∀ x y, R x y → f x = f y)
    {xs ys : List α} (h : List.Forall₂ R xs ys) : Option.Rel R (xs.find? f) (ys.find? f) := by
  induction h with
  | nil => exact .none
  | cons hxy _ ih =>
    rw [List.find?_cons, List.find?_cons, hf _ _ hxy]
    split
    · exact .some hxy
    · exact ih

/-- Two spellings that the system takes for one: they are one, or neither leads to a place whose
path is too long. -/
def Interchangeable (names : List String) (directory directory' : Path) : Prop :=
  directory = directory' ∨ Short names directory ∧ Short names directory'

/-- **From two spellings of one directory** the same file is found, or none from both. -/
theorem search_rel (finder : Finder) (fs : FileSystem)
    (h : directory.components = directory'.components)
    (hswap : Interchangeable finder.names directory directory') :
    Option.Rel Path.SameFile (finder.search fs directory) (finder.search fs directory') := by
  rcases hswap with rfl | ⟨hshort, hshort'⟩
  · cases finder.search fs directory with
    | none => exact .none
    | some path => exact .some ⟨rfl, fun _ => rfl⟩
  · exact find?_rel (fun _ _ hsame => FileSystem.isFile_congr (hsame.look fs))
      (forall₂_candidates h hshort hshort')

theorem components_of_rel {found found' : Option Path} (h : Option.Rel Path.SameFile found found') :
    found.map Path.components = found'.map Path.components := by
  cases h with
  | none => rfl
  | some h => rw [Option.map_some, Option.map_some, h.components]

/-- What is searched for depends on the names only, not on what is remembered. -/
theorem search_congr {finder finder' : Finder} (h : finder.names = finder'.names)
    (fs : FileSystem) (directory : Path) :
    finder.search fs directory = finder'.search fs directory := by
  rw [search, search, h]

/-- A search sees of a file system only which of the places are files. -/
theorem search_congr_files {finder : Finder} {fs fs' : FileSystem}
    (h : ∀ place ∈ candidates finder.names directory, fs.isFile place = fs'.isFile place) :
    finder.search fs directory = finder.search fs' directory := by
  rw [search, search, List.find?_congr h]

/-! ### Memory -/

variable {finder : Finder}

/-- What was put into the memory last is remembered for every spelling of its directory. -/
theorem known?_remember (found : Option Path) :
    (finder.remember directory found).known? directory' =
      if directory.same directory' then some found else finder.known? directory' := by
  rw [known?, remember, List.find?_cons]
  by_cases hsame : directory.same directory' = true
  · simp only [hsame, ↓reduceIte, Option.map_some]
  · simp only [hsame, Bool.false_eq_true, ↓reduceIte]
    rw [List.find?_filter, known?]
    congr 2
    funext known
    -- A place of the other directory is none of those that are replaced.
    by_cases hknown : known.1.same directory' = true
    · have hother : known.1.same directory = false := by
        rw [Bool.eq_false_iff, ne_eq, Path.same_iff]
        rw [Path.same_iff] at hknown hsame
        exact fun h => hsame (h.symm.trans hknown)
      simp [hknown, hother]
    · simp [hknown]

/-- A finder that has just been made. -/
def fresh (names : List String) : Finder :=
  { names }

theorem find_eq (fs : FileSystem) :
    finder.find fs directory =
      match finder.known? directory with
      | some found => (found, finder)
      | none => (finder.search fs directory,
          finder.remember directory (finder.search fs directory)) :=
  rfl

/-! ### A directory spelled too long -/

/-- **From a directory whose own path is too long** only what lies above it is found. -/
theorem search_of_pathLimit_le (fs : FileSystem)
    (hnames : ∀ name ∈ finder.names, (Path.mk name).isAbsolute = false)
    (hlong : FileSystem.pathLimit ≤ directory.text.utf8ByteSize) :
    finder.search fs directory =
      (directory.above.flatMap fun above =>
        finder.names.map fun name => above.join ⟨name⟩).find? fs.isFile := by
  have hown : (finder.names.map fun name => directory.join ⟨name⟩).find? fs.isFile = none := by
    rw [List.find?_eq_none]
    intro place hplace
    obtain ⟨name, hname, rfl⟩ := List.mem_map.mp hplace
    rw [FileSystem.isFile_join_of_pathLimit_le (hnames name hname) hlong]
    simp
  rw [search, candidates, Path.ancestors, List.flatMap_cons, List.find?_append, hown,
    Option.none_or]

end Finder

end LintHost
