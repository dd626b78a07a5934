import LintHost.Proofs.FileSystem.Temporary
import LintHost.Proofs.Path.Absolute
import LintHost.Proofs.Path.Spelling
import Mathlib.Data.List.Basic
import Mathlib.Data.List.Induction

/-!
# Folders that enclose a file

A folder encloses a file if the components of the file begin with those of the folder and go on
(`LintHost.Path.Encloses`). The texts need not agree: `/w//` encloses `/w/./a.py`, while `/wo` does
not enclose `/work/a.py`.

Three kinds of folders enclose a file by the way in which they are made: its parent
(`LintHost.Path.exists_parent?_of_fileName?`), every path above it
(`LintHost.Path.encloses_of_mem_above`), and what encloses one of these.

The way from an absolute folder to a file that it encloses is what is left of the components
(`LintHost.Path.relativeTo?_of_encloses`), spelled with single slashes between them and none at the
start. It has no character but slashes that the spelling of the file does not have.
-/

namespace LintHost

namespace Text

variable {sep : Char}

/-- A piece at the end is put after a separator. -/
theorem join_concat {pieces : List (List Char)} (hne : pieces ≠ []) (piece : List Char) :
    join sep (pieces ++ [piece]) = join sep pieces ++ sep :: piece := by
  induction pieces with
  | nil => exact absurd rfl hne
  | cons first pieces ih =>
    cases pieces with
    | nil => rfl
    | cons next pieces =>
      have hrest := ih (List.cons_ne_nil next pieces)
      rw [List.cons_append] at hrest
      rw [List.cons_append, List.cons_append, join_cons_cons, hrest, join_cons_cons,
        List.append_assoc, List.cons_append]

/-- What pieces are joined to has the characters of the pieces and the separator. -/
theorem mem_join {pieces : List (List Char)} {c : Char} (h : c ∈ join sep pieces) :
    c = sep ∨ ∃ piece ∈ pieces, c ∈ piece := by
  induction pieces with
  | nil => simp [join] at h
  | cons piece pieces ih =>
    cases pieces with
    | nil => exact Or.inr ⟨piece, List.mem_cons_self, h⟩
    | cons next pieces =>
      rw [join_cons_cons, List.mem_append, List.mem_cons] at h
      obtain h | rfl | h := h
      · exact Or.inr ⟨piece, List.mem_cons_self, h⟩
      · exact Or.inl rfl
      · obtain hsep | ⟨other, hother, hc⟩ := ih h
        · exact Or.inl hsep
        · exact Or.inr ⟨other, List.mem_cons_of_mem _ hother, hc⟩

/-- What is joined ends as the last piece does, if that is not empty. -/
theorem getLast?_join_concat (pieces : List (List Char)) {piece : List Char} (h : piece ≠ []) :
    (join sep (pieces ++ [piece])).getLast? = piece.getLast? := by
  cases pieces with
  | nil => rfl
  | cons first pieces =>
    rw [join_concat (List.cons_ne_nil first pieces), List.getLast?_append, List.getLast?_cons]
    cases hlast : piece.getLast? with
    | none => exact absurd (List.getLast?_eq_none_iff.mp hlast) h
    | some c => rfl

theorem join_ne_nil {pieces : List (List Char)} (hne : pieces ≠ []) (h : ∀ p ∈ pieces, p ≠ []) :
    join sep pieces ≠ [] := by
  obtain ⟨front, last, rfl⟩ := (List.eq_nil_or_concat' pieces).resolve_left hne
  have hlast : last ≠ [] := h last (List.mem_append_right _ (List.mem_singleton_self last))
  intro hnil
  have hend : (join sep (front ++ [last])).getLast? = last.getLast? :=
    getLast?_join_concat front hlast
  rw [hnil, List.getLast?_nil, eq_comm, List.getLast?_eq_none_iff] at hend
  exact hlast hend

end Text

namespace Path

/-- **A folder encloses a file** whose components begin with its own and go on. -/
def Encloses (folder file : Path) : Prop :=
  folder.components <+: file.components ∧ folder.components ≠ file.components

variable {folder file p q : Path}

theorem encloses_iff :
    folder.Encloses file ↔ ∃ below, below ≠ [] ∧ file.components = folder.components ++ below := by
  constructor
  · rintro ⟨⟨below, hbelow⟩, hne⟩
    refine ⟨below, ?_, hbelow.symm⟩
    rintro rfl
    exact hne (by rw [← hbelow, List.append_nil])
  · rintro ⟨below, hne, hfile⟩
    refine ⟨⟨below, hfile.symm⟩, fun hsame => hne ?_⟩
    rw [hfile] at hsame
    exact List.self_eq_append_right.mp hsame

/-- What is no longer than an enclosing folder encloses as well. -/
theorem Encloses.of_isPrefix (h : folder.Encloses file)
    (hq : q.components <+: folder.components) : q.Encloses file := by
  refine ⟨hq.trans h.1, fun hsame => h.2 ?_⟩
  rw [hsame] at hq
  exact h.1.eq_of_length (Nat.le_antisymm h.1.length_le hq.length_le)

/-! ### Absolute paths -/

theorem isAbsolute_iff_components : p.isAbsolute = true ↔ p.components.head? = some .root := by
  constructor
  · intro h
    obtain ⟨rest, hrest, -⟩ := components_of_isAbsolute h
    rw [hrest]
    rfl
  · intro h
    rw [isAbsolute_iff_anchor]
    obtain hanchor | hanchor | hanchor := anchor_cases p
    · exact hanchor
    · rw [components_eq, hanchor] at h
      simp [anchorComponent] at h
    · obtain ⟨rest, hrest⟩ := List.head?_eq_some_iff.mp h
      rw [components_eq, hanchor] at hrest
      exact absurd hrest (map_segmentComponent_ne (.inl rfl))

/-- What goes on from an absolute path is absolute. -/
theorem isAbsolute_of_isPrefix (hp : p.isAbsolute = true) (h : p.components <+: q.components) :
    q.isAbsolute = true := by
  obtain ⟨rest, hrest⟩ := h
  rw [isAbsolute_iff_components, ← hrest, List.head?_append, isAbsolute_iff_components.mp hp,
    Option.some_or]

/-- The components of an absolute path, by its visible segments. -/
theorem components_eq_root_cons (h : p.isAbsolute = true) :
    p.components = .root :: (visible p.chars).map segmentComponent := by
  rw [components_eq, isAbsolute_iff_anchor.mp h]
  rfl

theorem chars_ne_nil_of_isAbsolute (h : p.isAbsolute = true) : p.chars ≠ [] := by
  obtain ⟨rest, hrest⟩ := isAbsolute_iff.mp h
  rw [chars, hrest]
  exact List.cons_ne_nil _ _

theorem text_ne_of_isAbsolute (h : p.isAbsolute = true) : p.text ≠ "" := fun hempty =>
  chars_ne_nil_of_isAbsolute h (by rw [chars, hempty]; rfl)

/-! ### The paths above a file -/

theorem mem_aboveComponents {anchor : List Char} {reversed : List (List Char)}
    {cs : List Component} (h : cs ∈ aboveComponents anchor reversed) :
    (anchor = ['.'] ∧ cs = []) ∨ ∃ front last back, reversed.reverse = front ++ last :: back ∧
      cs = anchorComponent anchor ++ front.map segmentComponent := by
  induction reversed with
  | nil =>
    rw [aboveComponents] at h
    split at h
    · next hanchor => exact Or.inl ⟨hanchor, List.mem_singleton.mp h⟩
    · simp at h
  | cons segment rest ih =>
    rw [aboveComponents] at h
    obtain rfl | h := List.mem_cons.mp h
    · exact Or.inr ⟨rest.reverse, segment, [], List.reverse_cons, rfl⟩
    · obtain hdot | ⟨front, last, back, hrest, hcs⟩ := ih h
      · exact Or.inl hdot
      · exact Or.inr ⟨front, last, back ++ [segment], by rw [List.reverse_cons, hrest]; simp, hcs⟩

/-- **A path above a file** encloses it. -/
theorem encloses_of_mem_above (h : q ∈ p.above) : q.Encloses p := by
  have hp : p.chars ≠ [] := fun hp => by simp [above_of_chars_eq_nil hp] at h
  have hmem := List.mem_map_of_mem (f := components) h
  rw [map_components_above hp] at hmem
  rw [encloses_iff, components_eq p]
  obtain ⟨hanchor, hq⟩ | ⟨front, last, back, hvisible, hq⟩ := mem_aboveComponents hmem
  · refine ⟨_, ?_, by rw [hq, List.nil_append]⟩
    rw [hanchor]
    exact List.cons_ne_nil _ _
  · rw [List.reverse_reverse] at hvisible
    rw [hq, hvisible, List.map_append, ← List.append_assoc]
    exact ⟨_, by simp, rfl⟩

/-- Above an absolute path all is absolute. -/
theorem isAbsolute_of_mem_above (hp : p.isAbsolute = true) (h : q ∈ p.above) :
    q.isAbsolute = true := by
  have hmem := List.mem_map_of_mem (f := components) h
  rw [map_components_above (chars_ne_nil_of_isAbsolute hp), isAbsolute_iff_anchor.mp hp] at hmem
  obtain ⟨hanchor, -⟩ | ⟨front, last, back, -, hq⟩ := mem_aboveComponents hmem
  · simp at hanchor
  · rw [isAbsolute_iff_components, hq]
    rfl

theorem isAbsolute_of_mem_ancestors (hp : p.isAbsolute = true) (h : q ∈ p.ancestors) :
    q.isAbsolute = true := by
  obtain rfl | habove := List.mem_cons.mp h
  · exact hp
  · exact isAbsolute_of_mem_above hp habove

/-- **The parent of a file** that has a name is what is left of it without the name. -/
theorem exists_parent?_of_fileName? {name : String} (h : p.fileName? = some name) :
    ∃ parent, p.parent? = some parent ∧ p.components = parent.components ++ [.name name] := by
  have hlast : p.components.getLast? = some (.name name) := by
    rw [fileName?] at h
    split at h
    · next hlast => rw [hlast, Option.some.inj h]
    · simp at h
  have hp : p.chars ≠ [] := by
    intro hp
    rw [components_eq, anchor, hp] at hlast
    simp [anchored, anchorComponent, visible_nil] at hlast
  rw [components_eq] at hlast ⊢
  obtain hnil | ⟨front, last, hvisible⟩ := List.eq_nil_or_concat' (visible p.chars)
  · -- Without a visible segment the last component is the anchor, which is no name.
    rw [hnil, List.map_nil, List.append_nil] at hlast
    obtain hanchor | hanchor | hanchor := anchor_cases p <;> rw [hanchor] at hlast <;>
      simp [anchorComponent] at hlast
  · have habove := map_components_above hp
    rw [hvisible, List.reverse_concat, aboveComponents, List.reverse_reverse] at habove
    obtain ⟨parent, rest, hparent, hcomponents, -⟩ := List.map_eq_cons_iff.mp habove
    refine ⟨parent, by rw [parent?, hparent]; rfl, ?_⟩
    rw [hvisible, List.map_append, ← List.append_assoc, List.map_singleton] at hlast ⊢
    rw [List.getLast?_concat] at hlast
    rw [hcomponents, Option.some.inj hlast]

/-- Below any path a name is one more component. -/
theorem components_join_name (p : Path) {name : String} (h : FileSystem.IsName name) :
    (p.join ⟨name⟩).components = p.components ++ [.name name] := by
  have hvisible : visible name.toList = [name.toList] := by
    rw [visible, Text.splitOn_of_not_mem h.no_slash,
      List.filter_cons_of_pos (by simp [h.not_silent]), List.filter_nil]
  have hsegment : segmentComponent name.toList = .name name := by
    rw [segmentComponent, if_neg h.not_parent, String.ofList_toList]
  by_cases hp : p.chars = []
  · have hplain : ReadAs name.toList [] name.toList :=
      .plain ⟨_, _, Text.splitOn_of_not_mem h.no_slash, h.not_silent⟩
    have hname : (Path.mk name).components = [.name name] := by
      rw [components_eq, anchor, chars, hplain.anchored_eq, hvisible]
      simp [anchorComponent, hsegment]
    have hempty : p.components = [] := by
      rw [components_eq, anchor, hp]
      rfl
    rw [join_of_chars_eq_nil hp, hname, hempty, List.nil_append]
  · rw [components_eq, components_eq, anchor_join h.not_absolute hp,
      visible_join h.not_absolute hp, List.map_append, List.append_assoc]
    congr 2
    rw [chars, hvisible, List.map_singleton, hsegment]

/-- The parent of a name below a path is the path again, up to its spelling. -/
theorem exists_parent?_join_name (p : Path) {name : String} (h : FileSystem.IsName name) :
    ∃ parent, (p.join ⟨name⟩).parent? = some parent ∧ parent.components = p.components := by
  have hcomponents := components_join_name p h
  have hname : (p.join ⟨name⟩).fileName? = some name := by
    rw [fileName?, hcomponents, List.getLast?_concat]
  obtain ⟨parent, hparent, hjoin⟩ := exists_parent?_of_fileName? hname
  exact ⟨parent, hparent, (List.append_inj' (hjoin.symm.trans hcomponents) rfl).1⟩

/-! ### The way from a folder -/

/-- What a visible segment stands for is spelled by the segment. -/
theorem chars_ofComponent_segmentComponent (s : List Char) :
    (ofComponent (segmentComponent s)).chars = s := by
  rw [segmentComponent]
  split
  · next h => rw [h]; rfl
  · exact String.toList_ofList

theorem mem_visible {cs s : List Char} (h : s ∈ visible cs) :
    s ≠ [] ∧ '/' ∉ s ∧ ∀ c ∈ s, c ∈ cs := by
  obtain ⟨hpiece, hsilent⟩ := List.mem_filter.mp h
  refine ⟨?_, Text.not_mem_of_mem_splitOn hpiece, fun c hc => Text.mem_of_mem_splitOn hpiece hc⟩
  rintro rfl
  simp [isSilent] at hsilent

/-- **The plainest spelling of some components** is their spellings with slashes between them, if
none of these is empty or holds a slash. -/
theorem chars_ofComponents {cs : List Component}
    (h : ∀ c ∈ cs, (ofComponent c).chars ≠ [] ∧ '/' ∉ (ofComponent c).chars) :
    (ofComponents cs).chars = Text.join '/' (cs.map fun c => (ofComponent c).chars) := by
  induction cs using List.reverseRecOn with
  | nil => rfl
  | append_singleton cs c ih =>
    have hfront := ih fun d hd => h d (List.mem_append_left _ hd)
    have hslash := (h c (List.mem_append_right _ (List.mem_singleton_self c))).2
    have hstep : ofComponents (cs ++ [c]) = (ofComponents cs).join (ofComponent c) := by
      rw [ofComponents, List.foldl_append]
      rfl
    rw [hstep, List.map_append, List.map_singleton]
    obtain rfl | ⟨front, last, rfl⟩ := List.eq_nil_or_concat' cs
    · rw [join_of_chars_eq_nil rfl]
      rfl
    · -- What has been spelled so far ends as the last component does, and so with no slash.
      obtain ⟨hlast, hlastSlash⟩ := h last (by simp)
      have hrelative : (ofComponent c).isAbsolute = false := by
        rw [isAbsolute, beq_eq_false_iff_ne]
        exact fun hhead => hslash (List.mem_of_head? hhead)
      have hne : (ofComponents (front ++ [last])).chars ≠ [] := by
        rw [hfront]
        refine Text.join_ne_nil (by simp) fun piece hpiece => ?_
        obtain ⟨d, hd, rfl⟩ := List.mem_map.mp hpiece
        exact (h d (List.mem_append_left _ hd)).1
      have hnoSlash : (ofComponents (front ++ [last])).chars.getLast? ≠ some '/' := by
        rw [hfront, List.map_append, List.map_singleton, Text.getLast?_join_concat _ hlast]
        exact fun hend => hlastSlash (List.mem_of_getLast? hend)
      rw [Text.join_concat (by simp), ← hfront, chars, join_text hrelative hne hnoSlash,
        String.toList_append, String.toList_append, List.append_assoc]
      rfl

theorem stepsBetween_append (base below : List Component) :
    stepsBetween true (base ++ below) base = some below := by
  induction base with
  | nil => cases below <;> rfl
  | cons c base ih => rw [List.cons_append, stepsBetween, if_pos ⟨rfl, rfl⟩, ih]

/-- Segments that stand for components are what these are spelled with. -/
theorem map_chars_segmentComponent (names : List (List Char)) :
    (names.map segmentComponent).map (fun c => (ofComponent c).chars) = names := by
  rw [List.map_map]
  exact (List.map_congr_left fun s _ => chars_ofComponent_segmentComponent s).trans
    (List.map_id names)

/-- What is left of the components of a file below an absolute folder are segments of its text. -/
theorem exists_segments_below {below : List Component} (hfolder : folder.isAbsolute = true)
    (h : file.components = folder.components ++ below) :
    ∃ names : List (List Char), (∀ s ∈ names, s ∈ visible file.chars) ∧
      below = names.map segmentComponent := by
  have hfile : file.isAbsolute = true := isAbsolute_of_isPrefix hfolder ⟨below, h.symm⟩
  rw [components_eq_root_cons hfile, components_eq_root_cons hfolder, List.cons_append] at h
  obtain ⟨front, names, hvisible, -, hnames⟩ := List.map_eq_append_iff.mp (List.cons.inj h).2
  exact ⟨names, fun s hs => by rw [hvisible]; exact List.mem_append_right _ hs, hnames.symm⟩

/-- **The way from an absolute folder to a file that it encloses** is the rest of the components,
with slashes between them. It is not empty, has no slash at its start, and no character but slashes
that the file is not spelled with. -/
theorem relativeTo?_of_encloses (hfolder : folder.isAbsolute = true)
    (h : folder.Encloses file) :
    ∃ below r, below ≠ [] ∧ file.components = folder.components ++ below ∧
      file.relativeTo? folder = some r ∧
      r.chars = Text.join '/' (below.map fun c => (ofComponent c).chars) ∧
      r.chars ≠ [] ∧ r.isAbsolute = false ∧ ∀ c ∈ r.chars, c = '/' ∨ c ∈ file.chars := by
  obtain ⟨below, hne, hcomponents⟩ := encloses_iff.mp h
  have hway : file.relativeTo? folder = some (ofComponents below) := by
    have hsame : file.isAbsolute = folder.isAbsolute :=
      (isAbsolute_of_isPrefix hfolder h.1).trans hfolder.symm
    rw [relativeTo?, if_pos hsame, hcomponents, stepsBetween_append, Option.map_some]
  obtain ⟨names, hnames, rfl⟩ := exists_segments_below hfolder hcomponents
  have hchars : (ofComponents (names.map segmentComponent)).chars =
      Text.join '/' ((names.map segmentComponent).map fun c => (ofComponent c).chars) := by
    refine chars_ofComponents fun c hc => ?_
    obtain ⟨s, hs, rfl⟩ := List.mem_map.mp hc
    obtain ⟨hne, hslash, -⟩ := mem_visible (hnames s hs)
    rw [chars_ofComponent_segmentComponent]
    exact ⟨hne, hslash⟩
  -- The rest is read off the segments, none of which is empty or has a slash.
  refine ⟨_, _, hne, hcomponents, hway, hchars, ?_, ?_, fun c hc => ?_⟩
  · rw [hchars, map_chars_segmentComponent]
    exact Text.join_ne_nil (fun hnil => hne (by rw [hnil]; rfl)) fun s hs =>
      (mem_visible (hnames s hs)).1
  · rw [isAbsolute_ofComponents, List.any_eq_false]
    intro c hc
    obtain ⟨s, hs, rfl⟩ := List.mem_map.mp hc
    rw [not_isAbsolute_segmentComponent (mem_visible (hnames s hs)).2.1]
    simp
  · rw [hchars, map_chars_segmentComponent] at hc
    obtain hslash | ⟨s, hs, hc⟩ := Text.mem_join hc
    · exact Or.inl hslash
    · exact Or.inr ((mem_visible (hnames s hs)).2.2 c hc)

end Path

end LintHost
