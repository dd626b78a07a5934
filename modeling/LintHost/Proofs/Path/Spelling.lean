import LintHost.Path
import LintHost.Proofs.Text.Pieces

/-!
# Spellings of one path

Two paths are the same if they have the same components, however they are spelled. What the
components say of the spelling is its anchor and its visible segments, those that are not silent
(`LintHost.Path.components_eq`), and they say no less (`LintHost.Path.components_eq_iff`).

All that a search for a file makes of a directory respects this:

| what is made | theorem |
|---|---|
| the directories above it, one by one | `LintHost.Path.components_ancestors` |
| a path below it | `LintHost.Path.components_join` |
| being the empty path | `LintHost.Path.chars_eq_nil_iff_of_components_eq` |
| being absolute | `LintHost.Path.isAbsolute_eq_of_components_eq` |

The paths above a path are made from its anchor and a part of its segments. That such a path is
read with this very anchor is what `LintHost.Path.IsSpelling` is about: it holds of the anchor and
the segments of every path but the empty one, and of all that remains when segments are taken off
at the end.
-/

namespace LintHost.Path

theorem same_iff {p q : Path} : p.same q = true ↔ p.components = q.components :=
  beq_iff_eq

/-! ### The anchor of a text -/

/-- The segments of a text that stand for a component. -/
def visible (cs : List Char) : List (List Char) :=
  (Text.splitOn '/' cs).filter fun segment => !isSilent segment

/-- A text whose first segment stands for a component. -/
def StartsVisible (cs : List Char) : Prop :=
  ∃ first rest, Text.splitOn '/' cs = first :: rest ∧ isSilent first = false

theorem not_startsVisible {cs first : List Char} {rest : List (List Char)}
    (hsplit : Text.splitOn '/' cs = first :: rest) (hsilent : isSilent first = true) :
    ¬StartsVisible cs := by
  rintro ⟨first', rest', hsplit', hfirst⟩
  obtain ⟨rfl, -⟩ := List.cons.inj (hsplit'.symm.trans hsplit)
  exact Bool.eq_false_iff.mp hfirst hsilent

/-- Before a slash at the start there is an empty segment. -/
theorem not_startsVisible_slash (cs : List Char) : ¬StartsVisible ('/' :: cs) :=
  not_startsVisible (Text.splitOn_append_cons '/' [] cs) rfl

/-- How a text is read as an anchor and what is after it. -/
inductive ReadAs : List Char → List Char → List Char → Prop
  | root (rest : List Char) : ReadAs ('/' :: rest) ['/'] rest
  | current : ReadAs ['.'] ['.'] []
  | below (rest : List Char) : ReadAs ('.' :: '/' :: rest) ['.'] ('/' :: rest)
  | empty : ReadAs [] [] []
  | plain {cs : List Char} (h : StartsVisible cs) : ReadAs cs [] cs

theorem readAs_anchored (cs : List Char) : ReadAs cs (anchored cs).1 (anchored cs).2 := by
  unfold anchored
  split
  · exact .root _
  · exact .current
  · exact .below _
  · next hroot hcurrent hbelow =>
    cases cs with
    | nil => exact .empty
    | cons c cs =>
      have hc : c ≠ '/' := fun hc => hroot cs (by rw [hc])
      obtain ⟨piece, pieces, hs, hcons⟩ := Text.splitOn_cons_of_ne hc cs
      refine .plain ⟨c :: piece, pieces, hcons, ?_⟩
      rw [Bool.eq_false_iff]
      intro hsilent
      obtain ⟨rfl, rfl⟩ : c = '.' ∧ piece = [] := by simpa [isSilent] using hsilent
      -- The first segment is a dot, so the text is one, or a slash follows.
      cases cs with
      | nil => exact hcurrent rfl
      | cons d ds =>
        have hd : d ≠ '/' := fun hd => hbelow ds (by rw [hd])
        obtain ⟨piece', pieces', -, hcons'⟩ := Text.splitOn_cons_of_ne hd ds
        rw [hs] at hcons'
        simp at hcons'

theorem exists_readAs (p : Path) :
    ∃ rest, ReadAs p.chars p.anchor rest ∧ p.segments = Text.splitOn '/' rest :=
  ⟨_, readAs_anchored p.chars, rfl⟩

theorem ReadAs.anchored_eq {cs anchor rest : List Char} (h : ReadAs cs anchor rest) :
    anchored cs = (anchor, rest) := by
  cases h with
  | root => rfl
  | current => rfl
  | below => rfl
  | empty => rfl
  | plain h =>
    unfold anchored
    split
    · exact absurd h (not_startsVisible_slash _)
    · exact absurd h (not_startsVisible (Text.splitOn_of_not_mem (by decide)) rfl)
    · next rest =>
      exact absurd h (not_startsVisible (Text.splitOn_append_cons '/' ['.'] rest) rfl)
    · rfl

theorem StartsVisible.append {cs : List Char} (h : StartsVisible cs) (ds : List Char) :
    StartsVisible (cs ++ '/' :: ds) := by
  obtain ⟨first, rest, hsplit, hfirst⟩ := h
  exact ⟨first, rest ++ Text.splitOn '/' ds,
    by rw [Text.splitOn_append_cons, hsplit, List.cons_append], hfirst⟩

/-- What follows a slash does not change the anchor before it. -/
theorem anchored_append {cs : List Char} (hne : cs ≠ []) (ds : List Char) :
    (anchored (cs ++ '/' :: ds)).1 = (anchored cs).1 := by
  have h := readAs_anchored cs
  generalize (anchored cs).1 = anchor, (anchored cs).2 = rest at h
  cases h with
  | root => rfl
  | current => rfl
  | below => rfl
  | empty => exact absurd rfl hne
  | plain h => rw [(ReadAs.plain (h.append ds)).anchored_eq]

/-! ### What the components say -/

theorem visible_nil : visible [] = [] := rfl

theorem visible_append_cons (cs ds : List Char) :
    visible (cs ++ '/' :: ds) = visible cs ++ visible ds := by
  rw [visible, Text.splitOn_append_cons, List.filter_append]
  rfl

theorem visible_append_slash (cs : List Char) : visible (cs ++ ['/']) = visible cs := by
  rw [visible_append_cons, visible_nil, List.append_nil]

theorem visible_cons_slash (cs : List Char) : visible ('/' :: cs) = visible cs :=
  visible_append_cons [] cs

/-- What an anchor leaves are all the visible segments. -/
theorem ReadAs.visible_eq {cs anchor rest : List Char} (h : ReadAs cs anchor rest) :
    visible rest = visible cs := by
  cases h with
  | root rest => exact (visible_cons_slash rest).symm
  | current => rfl
  | below rest =>
    rw [visible_cons_slash]
    exact (visible_append_cons ['.'] rest).symm
  | empty => rfl
  | plain => rfl

/-- The components are those of the anchor and of the visible segments. -/
theorem components_eq (p : Path) :
    p.components = anchorComponent p.anchor ++ (visible p.chars).map segmentComponent := by
  obtain ⟨rest, hread, hsegments⟩ := exists_readAs p
  rw [components, hsegments, ← hread.visible_eq]
  rfl

theorem anchor_cases (p : Path) : p.anchor = ['/'] ∨ p.anchor = ['.'] ∨ p.anchor = [] := by
  obtain ⟨rest, hread, -⟩ := exists_readAs p
  generalize p.chars = cs, p.anchor = anchor at hread
  cases hread <;> simp

theorem segmentComponent_injective : Function.Injective segmentComponent := by
  intro s t h
  rw [segmentComponent, segmentComponent] at h
  split at h <;> split at h
  · simp_all
  · simp at h
  · simp at h
  · exact String.ofList_injective (Component.name.inj h)

/-- No segment stands for what an anchor stands for. -/
theorem map_segmentComponent_ne {segments : List (List Char)} {cs : List Component} {c : Component}
    (hc : c = .root ∨ c = .current) : segments.map segmentComponent ≠ c :: cs := by
  cases segments with
  | nil => simp
  | cons s segments =>
    intro heq
    obtain ⟨rfl, -⟩ := List.cons.inj heq
    rw [segmentComponent] at hc
    split at hc <;> simp at hc

/-- **Paths with the same components** have the same anchor and the same visible segments. -/
theorem components_eq_iff {p q : Path} :
    p.components = q.components ↔ p.anchor = q.anchor ∧ visible p.chars = visible q.chars := by
  constructor
  · intro h
    rw [components_eq, components_eq] at h
    have hmap : ∀ {s t : List (List Char)},
        s.map segmentComponent = t.map segmentComponent → s = t := fun hst =>
      (List.map_inj_right fun _ _ h => segmentComponent_injective h).mp hst
    rcases anchor_cases p with hp | hp | hp <;> rcases anchor_cases q with hq | hq | hq <;>
      simp only [hp, hq, anchorComponent, List.cons_append, List.nil_append, List.cons.injEq,
        reduceCtorEq, true_and, false_and] at h ⊢
    · exact hmap h
    · exact absurd h.symm (map_segmentComponent_ne (.inl rfl))
    · exact hmap h
    · exact absurd h.symm (map_segmentComponent_ne (.inr rfl))
    · exact absurd h (map_segmentComponent_ne (.inl rfl))
    · exact absurd h (map_segmentComponent_ne (.inr rfl))
    · exact hmap h
  · rintro ⟨hanchor, hvisible⟩
    rw [components_eq, components_eq, hanchor, hvisible]

theorem chars_eq_nil_iff {p : Path} : p.chars = [] ↔ p.anchor = [] ∧ visible p.chars = [] := by
  constructor
  · intro h
    rw [anchor, h]
    exact ⟨rfl, rfl⟩
  · obtain ⟨rest, hread, -⟩ := exists_readAs p
    rintro ⟨hanchor, hvisible⟩
    generalize p.chars = cs, p.anchor = anchor at hread hanchor hvisible
    cases hread with
    | root => simp at hanchor
    | current => simp at hanchor
    | below => simp at hanchor
    | empty => rfl
    | plain h =>
      obtain ⟨first, rest, hsplit, hfirst⟩ := h
      rw [visible, hsplit, List.filter_cons_of_pos (by simp [hfirst])] at hvisible
      simp at hvisible

theorem isAbsolute_iff_anchor {p : Path} : p.isAbsolute = true ↔ p.anchor = ['/'] := by
  rw [isAbsolute]
  obtain ⟨rest, hread, -⟩ := exists_readAs p
  generalize p.chars = cs, p.anchor = anchor at hread
  cases hread with
  | root => simp
  | current => simp
  | below => simp
  | empty => simp
  | plain h =>
    simp only [beq_iff_eq, reduceCtorEq, iff_false]
    intro hhead
    obtain ⟨cs, rfl⟩ := List.head?_eq_some_iff.mp hhead
    exact not_startsVisible_slash cs h

/-! ### Joining -/

/-- A relative path is put after a path that is not empty, with one slash between. -/
theorem chars_join {p q : Path} (hq : q.isAbsolute = false) (hp : p.chars ≠ []) :
    ∃ front, (p.join q).chars = front ++ '/' :: q.chars ∧
      (p.chars = front ∨ p.chars = front ++ ['/']) := by
  rw [join, if_neg (by simp [hq])]
  by_cases hlast : p.chars.getLast? = some '/'
  · obtain ⟨front, hfront⟩ := List.getLast?_eq_some_iff.mp hlast
    refine ⟨front, ?_, .inr hfront⟩
    rw [if_pos (.inr hlast), chars, String.toList_append, ← chars, ← chars, hfront]
    simp
  · refine ⟨p.chars, ?_, .inl rfl⟩
    rw [if_neg (by simp [hp, hlast]), chars, String.toList_append, String.toList_append]
    simp [chars]

theorem anchor_join {p q : Path} (hq : q.isAbsolute = false) (hp : p.chars ≠ []) :
    (p.join q).anchor = p.anchor := by
  obtain ⟨front, hjoin, hfront⟩ := chars_join hq hp
  rw [anchor, anchor, hjoin]
  rcases hfront with hfront | hfront
  · rw [hfront] at hp ⊢
    exact anchored_append hp _
  · rw [hfront]
    by_cases hnil : front = []
    · subst hnil
      rfl
    · rw [anchored_append hnil, anchored_append hnil]

theorem visible_join {p q : Path} (hq : q.isAbsolute = false) (hp : p.chars ≠ []) :
    visible (p.join q).chars = visible p.chars ++ visible q.chars := by
  obtain ⟨front, hjoin, hfront⟩ := chars_join hq hp
  rw [hjoin, visible_append_cons]
  rcases hfront with hfront | hfront
  · rw [hfront]
  · rw [hfront, visible_append_slash]

/-- Below the empty path there is the path itself. -/
theorem join_of_chars_eq_nil {p : Path} (h : p.chars = []) (q : Path) : p.join q = q := by
  have htext : p.text = "" := String.toList_eq_nil_iff.mp h
  rw [join]
  split
  · rfl
  · rw [if_pos (.inl h), htext, String.empty_append]

section Same

variable {p p' : Path} (h : p.components = p'.components)
include h

theorem chars_eq_nil_iff_of_components_eq : p.chars = [] ↔ p'.chars = [] := by
  obtain ⟨hanchor, hvisible⟩ := components_eq_iff.mp h
  rw [chars_eq_nil_iff, chars_eq_nil_iff, hanchor, hvisible]

theorem isAbsolute_eq_of_components_eq : p.isAbsolute = p'.isAbsolute := by
  rw [Bool.eq_iff_iff, isAbsolute_iff_anchor, isAbsolute_iff_anchor, (components_eq_iff.mp h).1]

/-- **Below two spellings of one path** there are two spellings of one path. -/
theorem components_join (q : Path) : (p.join q).components = (p'.join q).components := by
  by_cases hq : q.isAbsolute = true
  · rw [join, if_pos hq, join, if_pos hq]
  · rw [Bool.not_eq_true] at hq
    obtain ⟨hanchor, hvisible⟩ := components_eq_iff.mp h
    have hnil := chars_eq_nil_iff_of_components_eq h
    by_cases hp : p.chars = []
    · rw [join_of_chars_eq_nil hp, join_of_chars_eq_nil (hnil.mp hp)]
    · have hp' : p'.chars ≠ [] := fun hp' => hp (hnil.mpr hp')
      rw [components_eq_iff, anchor_join hq hp, anchor_join hq hp', visible_join hq hp,
        visible_join hq hp', hanchor, hvisible]
      exact ⟨rfl, rfl⟩

end Same

/-! ### The paths above -/

/-- **An anchor and segments that are read as such**: no segment holds a slash, and the first one
is not taken for a part of the anchor. -/
structure IsSpelling (anchor : List Char) (segments : List (List Char)) : Prop where
  no_slash : ∀ segment ∈ segments, '/' ∉ segment
  first : anchor = ['/'] ∨ (anchor = ['.'] ∧ ∀ s, segments.head? = some s → s = []) ∨
    (anchor = [] ∧ ∀ s, segments.head? = some s → isSilent s = false)

theorem IsSpelling.of_append {anchor : List Char} {front back : List (List Char)}
    (h : IsSpelling anchor (front ++ back)) : IsSpelling anchor front where
  no_slash segment hs := h.no_slash segment (List.mem_append_left _ hs)
  first := by
    have hhead : ∀ s, front.head? = some s → (front ++ back).head? = some s := by
      intro s hs
      rw [List.head?_append, hs, Option.some_or]
    exact h.first.imp_right (Or.imp (And.imp_right fun hs s hf => hs s (hhead s hf))
      (And.imp_right fun hs s hf => hs s (hhead s hf)))

theorem isSpelling {p : Path} (hne : p.chars ≠ []) : IsSpelling p.anchor p.segments where
  no_slash _ hs := Text.not_mem_of_mem_splitOn hs
  first := by
    obtain ⟨rest, hread, hsegments⟩ := exists_readAs p
    rw [hsegments]
    generalize p.chars = cs, p.anchor = anchor at hread hne
    cases hread with
    | root => exact .inl rfl
    | current => exact .inr (.inl ⟨rfl, fun s hs => (Option.some.inj hs).symm⟩)
    | below => exact .inr (.inl ⟨rfl, fun s hs => (Option.some.inj hs).symm⟩)
    | empty => exact absurd rfl hne
    | plain h =>
      obtain ⟨first, more, hsplit, hfirst⟩ := h
      refine .inr (.inr ⟨rfl, fun s hs => ?_⟩)
      rw [hsplit] at hs
      rwa [← Option.some.inj hs]

/-- What is spelled is read again. -/
theorem IsSpelling.readAs {anchor : List Char} {segments : List (List Char)}
    (h : IsSpelling anchor segments) :
    ReadAs (anchor ++ Text.join '/' segments) anchor (Text.join '/' segments) := by
  rcases h.first with rfl | ⟨rfl, hfirst⟩ | ⟨rfl, hfirst⟩
  · exact .root _
  · cases segments with
    | nil => exact .current
    | cons s segments =>
      obtain rfl := hfirst s rfl
      cases segments with
      | nil => exact .current
      | cons t segments => exact .below _
  · cases segments with
    | nil => exact .empty
    | cons s segments =>
      exact .plain ⟨s, segments, Text.splitOn_join (List.cons_ne_nil _ _) h.no_slash, hfirst s rfl⟩

theorem IsSpelling.components_ofChars {anchor : List Char} {segments : List (List Char)}
    (h : IsSpelling anchor segments) :
    (ofChars (anchor ++ Text.join '/' segments)).components =
      anchorComponent anchor ++ (segments.filter fun s => !isSilent s).map segmentComponent := by
  have hread := h.readAs
  have hvisible : visible (Text.join '/' segments) = segments.filter fun s => !isSilent s := by
    cases segments with
    | nil => rfl
    | cons s segments => rw [visible, Text.splitOn_join (List.cons_ne_nil _ _) h.no_slash]
  have hchars : (ofChars (anchor ++ Text.join '/' segments)).chars =
      anchor ++ Text.join '/' segments := String.toList_ofList
  rw [components_eq, Path.anchor, hchars, hread.anchored_eq, ← hread.visible_eq, hvisible]

/-- The components of the paths above one, from its anchor and its visible segments in
reverse. -/
def aboveComponents (anchor : List Char) : List (List Char) → List (List Component)
  | [] => if anchor = ['.'] then [[]] else []
  | _ :: rest =>
    (anchorComponent anchor ++ rest.reverse.map segmentComponent) :: aboveComponents anchor rest

theorem components_aboveReversed {anchor : List Char} {reversed : List (List Char)}
    (h : IsSpelling anchor reversed.reverse) :
    (aboveReversed anchor reversed).map components =
      aboveComponents anchor (reversed.filter fun s => !isSilent s) := by
  induction reversed with
  | nil =>
    rw [aboveReversed, List.filter_nil, aboveComponents]
    split <;> rfl
  | cons segment rest ih =>
    rw [List.reverse_cons] at h
    have hrest := ih h.of_append
    rw [aboveReversed]
    by_cases hsilent : isSilent segment = true
    · rw [if_pos hsilent, List.filter_cons_of_neg (by simp [hsilent]), hrest]
    · rw [if_neg hsilent, List.filter_cons_of_pos (by simp [hsilent]), List.map_cons, hrest,
        aboveComponents, ofReversed]
      have hsplit : rest.reverse =
          (rest.dropWhile isSilent).reverse ++ (rest.takeWhile isSilent).reverse := by
        rw [← List.reverse_append, List.takeWhile_append_dropWhile]
      have hspelling := (hsplit ▸ h.of_append).of_append
      -- The silent segments at the end are visible neither before nor after they are dropped.
      have hfilter : rest.filter (fun s => !isSilent s) =
          (rest.dropWhile isSilent).filter fun s => !isSilent s := by
        have htake : (rest.takeWhile isSilent).filter (fun s => !isSilent s) = [] := by
          rw [List.filter_eq_nil_iff]
          intro s hs
          simp [List.all_eq_true.mp List.all_takeWhile s hs]
        rw [← List.nil_append (List.filter _ (rest.dropWhile isSilent)), ← htake,
          ← List.filter_append, List.takeWhile_append_dropWhile]
      rw [hspelling.components_ofChars, List.filter_reverse, ← hfilter]

theorem above_of_chars_eq_nil {p : Path} (hp : p.chars = []) : p.above = [] := by
  rw [above, anchor, segments, hp]
  rfl

/-- The paths above one, by their components. -/
theorem map_components_above {p : Path} (hp : p.chars ≠ []) :
    p.above.map components = aboveComponents p.anchor (visible p.chars).reverse := by
  obtain ⟨rest, hread, hsegments⟩ := exists_readAs p
  have hspelling := isSpelling hp
  rw [← List.reverse_reverse p.segments] at hspelling
  rw [above, components_aboveReversed hspelling, List.filter_reverse, hsegments, ← hread.visible_eq]
  rfl

/-- **The paths above two spellings of one path** are, one by one, spellings of one path. -/
theorem components_ancestors {p p' : Path} (h : p.components = p'.components) :
    p.ancestors.map components = p'.ancestors.map components := by
  obtain ⟨hanchor, hvisible⟩ := components_eq_iff.mp h
  have hnil := chars_eq_nil_iff_of_components_eq h
  rw [ancestors, ancestors, List.map_cons, List.map_cons, h]
  by_cases hp : p.chars = []
  · rw [above_of_chars_eq_nil hp, above_of_chars_eq_nil (hnil.mp hp)]
  · rw [map_components_above hp, map_components_above fun hp' => hp (hnil.mpr hp'), hanchor,
      hvisible]

/-! ### Slashes at the end -/

/-- A path with slashes at the end of its text. -/
def withSlashes (p : Path) (count : Nat) : Path :=
  ofChars (p.chars ++ List.replicate count '/')

theorem chars_withSlashes (p : Path) (count : Nat) :
    (p.withSlashes count).chars = p.chars ++ List.replicate count '/' :=
  String.toList_ofList

/-- Slashes at the end say nothing, unless they make the empty path the root. -/
theorem components_withSlashes {p : Path} (hp : p.chars ≠ []) (count : Nat) :
    (p.withSlashes count).components = p.components := by
  rw [components_eq_iff, anchor, anchor, chars_withSlashes]
  induction count with
  | zero => simp
  | succ count ih =>
    have hne : p.chars ++ List.replicate count '/' ≠ [] := List.append_ne_nil_of_left_ne_nil hp _
    rw [List.replicate_succ', ← List.append_assoc, anchored_append hne, visible_append_slash]
    exact ih

end LintHost.Path
