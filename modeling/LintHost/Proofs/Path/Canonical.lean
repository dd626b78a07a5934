import LintHost.Proofs.Path.Enclosing

/-!
# Canonical paths

An absolute path is *canonical* if it has one slash before each of its names and no other piece:
`LintHost.Path.ofNames` spells a list of names that way. Between canonical paths nothing is left to
the spelling, and everything that is done with paths becomes something done with lists of names:

| with paths | with names |
|---|---|
| the directories above | the prefixes, longest first (`LintHost.Path.split_ancestors`) |
| the parent | all names but the last (`LintHost.Path.parent?_ofNames`) |
| a name below | one more name (`LintHost.Path.join_ofNames`) |
| a folder that encloses a file | a proper prefix (`LintHost.Path.encloses_ofNames_iff`) |

From a canonical directory every path that a user may write leads to a canonical path: its pieces
are walked one after the other (`LintHost.Path.walk`), an empty one and `.` leading nowhere and `..`
one directory up, but not above the root. This is what normalizing does
(`LintHost.Path.normalize_ofNames`), for every spelling, absolute or not.
-/

namespace LintHost.Path

/-- The absolute path through some names, with one slash before each of them. -/
def ofNames (names : List String) : Path :=
  ofChars ('/' :: Text.join '/' (names.map String.toList))

/-- Each of the names leads one directory down. -/
def Plain (names : List String) : Prop :=
  ∀ name ∈ names, FileSystem.IsName name

variable {names : List String} {name last : String}

theorem Plain.of_append {back : List String} (h : Plain (names ++ back)) : Plain names :=
  fun name hname => h name (List.mem_append_left _ hname)

theorem Plain.of_isPrefix {front : List String} (h : Plain names) (hfront : front <+: names) :
    Plain front :=
  fun name hname => h name (hfront.subset hname)

theorem Plain.concat (h : Plain names) (hname : FileSystem.IsName name) :
    Plain (names ++ [name]) := by
  intro other hother
  obtain hother | hother := List.mem_append.mp hother
  · exact h other hother
  · rwa [List.mem_singleton.mp hother]

theorem Plain.isName (h : Plain (names ++ [last])) : FileSystem.IsName last :=
  h last (List.mem_append_right _ (List.mem_singleton_self last))

/-! ### Anatomy -/

theorem chars_ofNames (names : List String) :
    (ofNames names).chars = '/' :: Text.join '/' (names.map String.toList) :=
  String.toList_ofList

theorem isAbsolute_ofNames (names : List String) : (ofNames names).isAbsolute = true := by
  rw [isAbsolute, chars_ofNames]
  rfl

theorem anchor_ofNames (names : List String) : (ofNames names).anchor = ['/'] :=
  isAbsolute_iff_anchor.mp (isAbsolute_ofNames names)

theorem splitOn_join_names (h : Plain names) (hne : names ≠ []) :
    Text.splitOn '/' (Text.join '/' (names.map String.toList)) = names.map String.toList := by
  refine Text.splitOn_join (by simpa using hne) fun piece hpiece => ?_
  obtain ⟨name, hname, rfl⟩ := List.mem_map.mp hpiece
  exact (h name hname).no_slash

theorem segments_ofNames (h : Plain names) (hne : names ≠ []) :
    (ofNames names).segments = names.map String.toList := by
  rw [segments, chars_ofNames, anchored, splitOn_join_names h hne]

/-- None of the names is silent. -/
theorem filter_toList (h : Plain names) :
    (names.map String.toList).filter (fun piece => !isSilent piece) = names.map String.toList := by
  rw [List.filter_eq_self]
  intro piece hpiece
  obtain ⟨name, hname, rfl⟩ := List.mem_map.mp hpiece
  rw [(h name hname).not_silent]
  rfl

theorem visible_ofNames (h : Plain names) :
    visible (ofNames names).chars = names.map String.toList := by
  rw [chars_ofNames, visible_cons_slash]
  by_cases hne : names = []
  · subst hne
    rfl
  · rw [visible, splitOn_join_names h hne, filter_toList h]

theorem segmentComponent_toList (h : FileSystem.IsName name) :
    segmentComponent name.toList = .name name := by
  rw [segmentComponent, if_neg h.not_parent, String.ofList_toList]

/-- The components of a canonical path are the root and its names. -/
theorem components_ofNames (h : Plain names) :
    (ofNames names).components = .root :: names.map Component.name := by
  rw [components_eq_root_cons (isAbsolute_ofNames names), visible_ofNames h, List.map_map]
  exact congrArg _ (List.map_congr_left fun name hname => segmentComponent_toList (h name hname))

/-- **A folder encloses a file** if its names are a proper prefix. -/
theorem encloses_ofNames_iff {root : List String} (hroot : Plain root) (h : Plain names) :
    (ofNames root).Encloses (ofNames names) ↔ root <+: names ∧ root ≠ names := by
  have hname : Function.Injective Component.name := fun _ _ heq => Component.name.inj heq
  rw [Encloses, components_ofNames hroot, components_ofNames h, List.cons_prefix_cons,
    List.prefix_map_iff_of_injective hname, ne_eq, List.cons.injEq,
    (List.map_injective_iff.mpr hname).eq_iff]
  simp

/-! ### Above and below -/

/-- **Above a canonical path** there are the paths with fewer of its names. -/
theorem above_ofNames (h : Plain (names ++ [last])) :
    (ofNames (names ++ [last])).above = ofNames names :: (ofNames names).above := by
  have hsegments := segments_ofNames h (by simp)
  have hfirst : (names.map String.toList).reverse.dropWhile isSilent =
      (names.map String.toList).reverse := by
    obtain rfl | ⟨front, last', rfl⟩ := List.eq_nil_or_concat' names
    · rfl
    · rw [List.map_append, List.map_singleton, List.reverse_concat,
        List.dropWhile_cons_of_neg (by simp [h.of_append.isName.not_silent])]
  rw [above, anchor_ofNames, hsegments, List.map_append, List.map_singleton, List.reverse_concat,
    aboveReversed, if_neg (by simp [h.isName.not_silent]), hfirst, ofReversed, List.reverse_reverse]
  refine congrArg _ ?_
  rw [above, anchor_ofNames]
  by_cases hne : names = []
  · subst hne
    rfl
  · rw [segments_ofNames h.of_append hne]

theorem above_root : (ofNames []).above = [] := by
  decide

theorem parent?_ofNames (h : Plain (names ++ [last])) :
    (ofNames (names ++ [last])).parent? = some (ofNames names) := by
  rw [parent?, above_ofNames h]
  rfl

/-- **Going up from a canonical path** leads past those with more names to those with fewer: where
the ancestors are cut in two, the place of the cut has a prefix of the names, and the ancestors
before it are all those that have a longer one. -/
theorem split_ancestors {inner outer : List Path} {above : Path} (h : Plain names)
    (hcut : (ofNames names).ancestors = inner ++ above :: outer) :
    ∃ front, front <+: names ∧ above = ofNames front ∧
      ∀ other, other <+: names → other <+: front ∨ ofNames other ∈ inner := by
  induction names using List.reverseRecOn generalizing inner with
  | nil =>
    rw [ancestors, above_root] at hcut
    obtain ⟨rfl, hroot⟩ | ⟨inner, rfl, hrest⟩ := List.cons_eq_append_iff.mp hcut
    · exact ⟨[], List.prefix_refl _, (List.cons.inj hroot).1, fun other hother => .inl hother⟩
    · simp at hrest
  | append_singleton names last ih =>
    rw [ancestors, above_ofNames h] at hcut
    obtain ⟨rfl, hself⟩ | ⟨inner, rfl, hrest⟩ := List.cons_eq_append_iff.mp hcut
    · exact ⟨_, List.prefix_refl _, (List.cons.inj hself).1, fun other hother => .inl hother⟩
    · obtain ⟨front, hfront, rfl, hothers⟩ := ih h.of_append hrest
      refine ⟨front, hfront.trans (List.prefix_append _ _), rfl, fun other hother => ?_⟩
      obtain rfl | hother := List.prefix_concat_iff.mp hother
      · exact .inr List.mem_cons_self
      · exact (hothers other hother).imp_right (List.mem_cons_of_mem _)

/-- Every prefix of the names is on the way up. -/
theorem ofNames_mem_ancestors (h : Plain names) {front : List String} (hfront : front <+: names) :
    ofNames front ∈ (ofNames names).ancestors := by
  induction names using List.reverseRecOn with
  | nil =>
    rw [List.prefix_nil.mp hfront]
    exact List.mem_cons_self
  | append_singleton names last ih =>
    obtain rfl | hfront := List.prefix_concat_iff.mp hfront
    · exact List.mem_cons_self
    · rw [ancestors, above_ofNames h]
      exact List.mem_cons_of_mem _ (ih h.of_append hfront)

/-- **Below a canonical path** a name is one more name. -/
theorem join_ofNames (h : Plain names) (hname : FileSystem.IsName name) :
    (ofNames names).join ⟨name⟩ = ofNames (names ++ [name]) := by
  obtain rfl | ⟨front, last, rfl⟩ := List.eq_nil_or_concat' names
  · rw [join, if_neg (by simp [hname.not_absolute]), if_pos (.inr rfl)]
    simp [ofNames, ofChars, Text.join]
  · have hlast : (ofNames (front ++ [last])).chars.getLast? ≠ some '/' := by
      rw [chars_ofNames, List.map_append, List.map_singleton, List.getLast?_cons,
        Text.getLast?_join_concat _ h.isName.ne_nil]
      cases hend : last.toList.getLast? with
      | none => exact absurd (List.getLast?_eq_none_iff.mp hend) h.isName.ne_nil
      | some c =>
        rintro ⟨⟩
        exact h.isName.no_slash (List.mem_of_getLast? hend)
    have htext := join_text hname.not_absolute
      (chars_ne_nil_of_isAbsolute (isAbsolute_ofNames (front ++ [last]))) hlast
    have hmap : (front ++ [last] ++ [name]).map String.toList =
        (front ++ [last]).map String.toList ++ [name.toList] := List.map_append
    refine (congrArg Path.mk htext).trans (congrArg Path.mk (String.toList_injective ?_))
    rw [String.toList_append, String.toList_append, ← chars, chars_ofNames, String.toList_ofList,
      hmap, Text.join_concat (by simp)]
    simp

/-! ### Walking -/

/-- Where one piece of a path leads to: an empty one and `.` lead nowhere, `..` to the directory
above, and at the root nowhere either, and any other is a name in the directory. -/
def walk (names : List String) (piece : List Char) : List String :=
  if isSilent piece then names
  else if piece = ['.', '.'] then names.dropLast
  else names ++ [String.ofList piece]

/-- The names that a path leads to from a directory, piece by piece; an absolute path starts at the
root. -/
def landing (names : List String) (file : Path) : List String :=
  (Text.splitOn '/' file.chars).foldl walk (if file.isAbsolute then [] else names)

/-- Walking goes from names to names. -/
theorem Plain.walk (h : Plain names) {piece : List Char} (hpiece : '/' ∉ piece) :
    Plain (walk names piece) := by
  rw [Path.walk]
  split
  · exact h
  · next hsilent =>
    split
    · exact fun name hname => h name (List.dropLast_subset _ hname)
    · next hparent =>
      refine h.concat ⟨?_, ?_, ?_⟩ <;> rw [String.toList_ofList]
      · exact hpiece
      · rwa [Bool.not_eq_true] at hsilent
      · exact hparent

theorem Plain.foldl_walk (h : Plain names) {pieces : List (List Char)}
    (hpieces : ∀ piece ∈ pieces, '/' ∉ piece) : Plain (pieces.foldl Path.walk names) := by
  induction pieces generalizing names with
  | nil => exact h
  | cons piece pieces ih =>
    exact ih (h.walk (hpieces piece List.mem_cons_self)) fun other hother =>
      hpieces other (List.mem_cons_of_mem _ hother)

theorem plain_landing (h : Plain names) (file : Path) : Plain (landing names file) := by
  have hstart : Plain (if file.isAbsolute then [] else names) := by
    split
    · exact nofun
    · exact h
  exact hstart.foldl_walk fun piece hpiece => Text.not_mem_of_mem_splitOn hpiece

/-- The stack of components that stands for some names. -/
def stackOf (names : List String) : List Component :=
  (names.map Component.name).reverse ++ [.root]

/-- **Pushing a piece** on the stack is walking it. -/
theorem pushComponent_stackOf {piece : List Char} (hsilent : isSilent piece = false) :
    pushComponent (stackOf names) (segmentComponent piece) = stackOf (walk names piece) := by
  rw [walk, if_neg (by simp [hsilent]), segmentComponent]
  by_cases hparent : piece = ['.', '.']
  · rw [if_pos hparent, if_pos hparent]
    obtain rfl | ⟨front, last, rfl⟩ := List.eq_nil_or_concat' names
    · rfl
    · rw [List.dropLast_concat, stackOf, List.map_append, List.map_singleton, List.reverse_concat]
      rfl
  · rw [if_neg hparent, if_neg hparent, stackOf, stackOf, List.map_append, List.map_singleton,
      List.reverse_concat]
    rfl

theorem foldl_pushComponent_stackOf (pieces : List (List Char)) (names : List String) :
    ((pieces.filter fun piece => !isSilent piece).map segmentComponent).foldl pushComponent
        (stackOf names) = stackOf (pieces.foldl walk names) := by
  induction pieces generalizing names with
  | nil => rfl
  | cons piece pieces ih =>
    rw [List.foldl_cons]
    by_cases hsilent : isSilent piece = true
    · rw [List.filter_cons_of_neg (by simp [hsilent]), walk, if_pos hsilent, ih]
    · rw [List.filter_cons_of_pos (by simp [hsilent]), List.map_cons, List.foldl_cons,
        pushComponent_stackOf (by simpa using hsilent), ih]

/-- Walking plain names from the root leads through them. -/
theorem foldl_walk_toList (h : Plain names) (front : List String) :
    (names.map String.toList).foldl walk front = front ++ names := by
  induction names generalizing front with
  | nil => simp
  | cons name names ih =>
    have hname := h name List.mem_cons_self
    rw [List.map_cons, List.foldl_cons, walk, if_neg (by simp [hname.not_silent]),
      if_neg hname.not_parent, ih fun other hother => h other (List.mem_cons_of_mem _ hother),
      String.ofList_toList]
    simp

/-- The plainest spelling of the root and some names is canonical. -/
theorem ofComponents_root_cons (h : Plain names) :
    ofComponents (.root :: names.map Component.name) = ofNames names := by
  induction names using List.reverseRecOn with
  | nil => decide
  | append_singleton names last ih =>
    rw [List.map_append, List.map_singleton, ← List.cons_append, ofComponents, List.foldl_append,
      ← ofComponents, ih h.of_append]
    exact join_ofNames h.of_append h.isName

/-- **Normalizing** from a canonical directory gives the canonical path that the file leads to. -/
theorem normalize_ofNames (h : Plain names) (file : Path) :
    normalize (ofNames names) file = ofNames (landing names file) := by
  have hpieces := foldl_pushComponent_stackOf (Text.splitOn '/' file.chars)
  have hcomponents : ((ofNames names).join file).components.foldl pushComponent [] =
      stackOf (landing names file) := by
    rw [landing]
    by_cases hfile : file.isAbsolute = true
    · rw [if_pos hfile, ← hpieces, join, if_pos hfile, components_eq_root_cons hfile]
      rfl
    · rw [Bool.not_eq_true] at hfile
      have hself : ((names.map String.toList).map segmentComponent).foldl pushComponent
          (stackOf []) = stackOf names := by
        rw [← filter_toList h, foldl_pushComponent_stackOf, foldl_walk_toList h, List.nil_append]
      have hne := chars_ne_nil_of_isAbsolute (isAbsolute_ofNames names)
      have habsolute : ((ofNames names).join file).isAbsolute = true := by
        rw [isAbsolute_join, isAbsolute_ofNames, Bool.or_true]
      rw [if_neg (by simp [hfile]), ← hpieces, components_eq_root_cons habsolute,
        visible_join hfile hne, visible_ofNames h, List.map_append, List.foldl_cons,
        List.foldl_append]
      exact congrArg (fun stack => List.foldl pushComponent stack _) hself
  rw [normalize, resolveDots, hcomponents, stackOf, List.reverse_append, List.reverse_reverse]
  exact ofComponents_root_cons (plain_landing h file)

end LintHost.Path
