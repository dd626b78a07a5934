import LintHost.Path

/-!
# Absolute and relative paths

Whether a path is absolute is read off its first character, while most paths are put
together from components. This file follows the first character through the ways in which
a path is built:

* `LintHost.Path.isAbsolute_join`, and along a list of components
  `LintHost.Path.isAbsolute_ofComponents`;
* `LintHost.Path.components_of_isAbsolute`: the components of an absolute path are the root
  and, after it, components that are spelled without a slash at their start.

From the two follows what a reader of relative paths needs to know: the way from a directory
to an absolute path is either that path itself, where the directory has no known place, or a
relative path (`LintHost.Path.eq_or_not_isAbsolute_of_relativeTo?`). Nothing is assumed
about the directory.
-/

namespace LintHost.Path

/-! ### The first character -/

theorem isAbsolute_iff {p : Path} : p.isAbsolute = true ↔ ∃ rest, p.text.toList = '/' :: rest := by
  rw [isAbsolute, chars, beq_iff_eq, List.head?_eq_some_iff]

/-- An absolute path and a relative one that is not empty start with different characters, so
no text starts with both. -/
theorem not_starts_with_both {p q : Path} (hp : p.isAbsolute = true) (hq : q.isAbsolute = false)
    (hne : q.text ≠ "") {cs ds : List Char} : p.text.toList ++ cs ≠ q.text.toList ++ ds := by
  obtain ⟨rest, hrest⟩ := isAbsolute_iff.mp hp
  intro heq
  cases hcs : q.text.toList with
  | nil => exact hne (String.toList_eq_nil_iff.mp hcs)
  | cons c tail =>
    rw [hrest, hcs, List.cons_append, List.cons_append] at heq
    obtain ⟨rfl, -⟩ := List.cons.inj heq
    exact absurd (isAbsolute_iff.mpr ⟨tail, hcs⟩) (by simp [hq])

/-- Below a relative path a relative path stays relative. -/
theorem isAbsolute_join (p q : Path) : (p.join q).isAbsolute = (q.isAbsolute || p.isAbsolute) := by
  rw [join]
  split
  · next hq => simp [hq]
  · next hq =>
    have hq : q.isAbsolute = false := by simpa using hq
    have hhead : ∀ text : String, p.chars ≠ [] →
        (Path.mk (p.text ++ text)).isAbsolute = p.isAbsolute := by
      intro text hne
      cases hp : p.text.toList with
      | nil => exact absurd hp hne
      | cons c rest => simp [isAbsolute, chars, hp]
    split
    · by_cases hp : p.chars = []
      · have htext : p.text = "" := String.toList_eq_nil_iff.mp hp
        have habs : p.isAbsolute = false := by simp [isAbsolute, hp]
        have hsame : (Path.mk (p.text ++ q.text)).isAbsolute = q.isAbsolute := by
          rw [htext, String.empty_append]
        rw [hsame, hq, habs]
        rfl
      · rw [hhead q.text hp, hq, Bool.false_or]
    · next hsplit =>
      have hp : p.chars ≠ [] := fun hc => hsplit (Or.inl hc)
      rw [String.append_assoc, hhead _ hp, hq, Bool.false_or]

/-- A path built from components is absolute if one of them is spelled that way. -/
theorem isAbsolute_ofComponents (cs : List Component) :
    (ofComponents cs).isAbsolute = cs.any fun c => (ofComponent c).isAbsolute := by
  have hfold : ∀ (start : Path), (cs.foldl (fun p c => p.join (ofComponent c)) start).isAbsolute =
      (start.isAbsolute || cs.any fun c => (ofComponent c).isAbsolute) := by
    induction cs with
    | nil => simp
    | cons c cs ih =>
      intro start
      rw [List.foldl_cons, ih, isAbsolute_join, List.any_cons, ← Bool.or_assoc,
        Bool.or_comm start.isAbsolute]
  rw [ofComponents, hfold]
  rfl

/-! ### The components of an absolute path -/

/-- A piece between slashes stands for a component that is spelled without one. -/
theorem not_isAbsolute_segmentComponent {segment : List Char} (h : '/' ∉ segment) :
    (ofComponent (segmentComponent segment)).isAbsolute = false := by
  rw [segmentComponent]
  split
  · decide
  · cases segment with
    | nil => decide
    | cons c rest =>
      have hc : c ≠ '/' := fun hc => h (hc ▸ List.mem_cons_self)
      simp [ofComponent, isAbsolute, chars, hc]

/-- **The components of an absolute path** are the root and then components that are spelled
without a slash at their start. -/
theorem components_of_isAbsolute {p : Path} (h : p.isAbsolute = true) :
    ∃ rest, p.components = .root :: rest ∧ ∀ c ∈ rest, (ofComponent c).isAbsolute = false := by
  obtain ⟨cs, hcs⟩ := isAbsolute_iff.mp h
  have hanchored : anchored p.chars = (['/'], cs) := by rw [chars, hcs, anchored]
  refine ⟨((Text.splitOn '/' cs).filter fun segment => !isSilent segment).map segmentComponent,
    ?_, ?_⟩
  · rw [components, anchor, segments, hanchored]
    rfl
  · intro c hc
    obtain ⟨segment, hsegment, rfl⟩ := List.mem_map.mp hc
    exact not_isAbsolute_segmentComponent
      (Text.not_mem_of_mem_splitOn (List.mem_filter.mp hsegment).1)

/-! ### The way from a directory -/

/-- The way between two lists of components takes its steps from the target, or upwards. -/
theorem mem_target_or_eq_parent_of_stepsBetween {agree : Bool} {target base steps : List Component}
    (h : stepsBetween agree target base = some steps) {c : Component} (hc : c ∈ steps) :
    c ∈ target ∨ c = .parent := by
  fun_induction stepsBetween agree target base generalizing steps with
  | case1 => simp_all
  | case2 => simp_all
  | case3 =>
    obtain rfl := Option.some.inj h
    obtain ⟨b, -, rfl⟩ := List.mem_map.mp hc
    exact Or.inr rfl
  | case4 agree a target b base heq ih =>
    exact (ih h hc).imp_left (List.mem_cons_of_mem a)
  | case5 agree a target base heq ih =>
    obtain ⟨inner, hinner, rfl⟩ := Option.map_eq_some_iff.mp h
    rcases List.mem_cons.mp hc with rfl | hc
    · exact Or.inl List.mem_cons_self
    · exact (ih hinner hc).imp_left (List.mem_cons_of_mem a)
  | case6 => simp at h
  | case7 agree a target b base =>
    obtain rfl := Option.some.inj h
    rcases List.mem_append.mp hc with hc | hc
    · rcases List.mem_cons.mp hc with rfl | hc
      · exact Or.inr rfl
      · obtain ⟨b, -, rfl⟩ := List.mem_map.mp hc
        exact Or.inr rfl
    · exact Or.inl hc

/-- **The way to an absolute path** is the path itself, where the directory is not absolute,
or a relative path: the root that both begin with is never part of it. -/
theorem eq_or_not_isAbsolute_of_relativeTo? {p base r : Path} (hp : p.isAbsolute = true)
    (h : p.relativeTo? base = some r) : r = p ∨ r.isAbsolute = false := by
  rw [relativeTo?, hp] at h
  split at h
  · next hbase =>
    obtain ⟨steps, hsteps, rfl⟩ := Option.map_eq_some_iff.mp h
    obtain ⟨ps, hps, hrelative⟩ := components_of_isAbsolute hp
    obtain ⟨bs, hbs, -⟩ := components_of_isAbsolute hbase.symm
    -- The two roots agree and are left out; what remains of the target is spelled without one.
    rw [hps, hbs, stepsBetween, if_pos ⟨rfl, rfl⟩] at hsteps
    refine Or.inr ?_
    rw [isAbsolute_ofComponents, List.any_eq_false]
    intro c hc
    rcases mem_target_or_eq_parent_of_stepsBetween hsteps hc with hc | rfl
    · simp [hrelative c hc]
    · decide
  · exact Or.inl (Option.some.inj (by simpa using h)).symm

end LintHost.Path
