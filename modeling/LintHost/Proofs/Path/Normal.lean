import LintHost.Proofs.Path.Canonical

/-!
# Normal paths

Normalizing resolves `.` and `..` by the spelling alone, and what comes of it is a path of a plain
kind: the root or some `..`, and after that names, with single slashes between them
(`LintHost.Path.Resolved`). No directory is asked for any of it.

That such a path is a *normal form* rests on two facts. The components that are left are read again
when they are spelled (`LintHost.Path.Resolved.components_ofComponents`), and resolving them once
more changes nothing (`LintHost.Path.Resolved.resolveDots_eq`), so whatever is put below a path might
as well be put below its normal form. Since the stack of components is all that is carried along
(`LintHost.Path.stack_join`), it does not matter where a path is cut in two.

| of a normalized path | theorem |
|---|---|
| what it looks like | `LintHost.Path.Resolved.isNormal` |
| whether it is absolute | `LintHost.Path.isAbsolute_normalize` |
| normalizing once more | `LintHost.Path.normalize_of_join_eq` |
| what is normalized below it | `LintHost.Path.normalize_normalize` |
| where it leads | `LintHost.Path.landing_normalize` |

The last row is what keeps the others from being true of nothing in particular: from every current
directory, the normal form leads to the very place that the path as it was written leads to, as long
as all names on the way are directories.
-/

namespace LintHost

/-! ### Slashes that stand alone -/

namespace Text

variable {sep : Char} {cs : List Char}

/-- What follows a separator is cut into pieces none of which is the first. -/
theorem mem_tail_splitOn {piece : List Char} (front : List Char) {back : List Char}
    (h : piece ∈ splitOn sep back) : piece ∈ (splitOn sep (front ++ sep :: back)).tail := by
  rw [splitOn_append_cons, List.tail_append_of_ne_nil (splitOn_ne_nil sep front)]
  exact List.mem_append_right _ h

/-- After a separator that is doubled there is an empty piece. -/
theorem nil_mem_tail_of_doubled (h : [sep, sep] <:+: cs) : [] ∈ (splitOn sep cs).tail := by
  obtain ⟨front, back, rfl⟩ := h
  have hback : [] ∈ splitOn sep (sep :: back) := by
    rw [splitOn, if_pos rfl]
    exact List.mem_cons_self
  simpa using mem_tail_splitOn front hback

/-- After a separator at the end there is an empty piece. -/
theorem nil_mem_tail_of_getLast? (h : cs.getLast? = some sep) : [] ∈ (splitOn sep cs).tail := by
  obtain ⟨front, rfl⟩ := List.getLast?_eq_some_iff.mp h
  exact mem_tail_splitOn front (List.mem_singleton_self [])

end Text

namespace Path

/-- **A path in normal form**, by its components and by its text. -/
structure IsNormal (p : Path) : Prop where
  /-- There is no `.`, not at the start, where it would be a component, nor anywhere else. -/
  no_current : .current ∉ p.components
  no_dot : ['.'] ∉ Text.splitOn '/' p.chars
  /-- What leads upwards comes first. -/
  parents_first : ∃ ups below, p.components = List.replicate ups .parent ++ below ∧
    .parent ∉ below
  no_doubled_slash : ¬['/', '/'] <:+: p.chars
  no_slash_at_end : p.chars ≠ ['/'] → p.chars.getLast? ≠ some '/'

/-! ### What is on the stack -/

/-- The components of a path below its anchor. -/
def below (p : Path) : List Component :=
  (visible p.chars).map segmentComponent

/-- The stack after all components of a path have been pushed. -/
def stack (p : Path) : List Component :=
  p.components.foldl pushComponent []

/-- **What a piece of a path stands for**: the directory above, or a name. -/
inductive IsStep : Component → Prop
  | parent : IsStep .parent
  | name {text : String} (h : FileSystem.IsName text) : IsStep (.name text)

theorem isStep_of_mem_below {p : Path} {c : Component} (h : c ∈ p.below) : IsStep c := by
  obtain ⟨segment, hsegment, rfl⟩ := List.mem_map.mp h
  obtain ⟨hpiece, hsilent⟩ := List.mem_filter.mp hsegment
  rw [segmentComponent]
  split
  · exact .parent
  · next hparent =>
    refine .name ⟨?_, ?_, ?_⟩ <;> rw [String.toList_ofList]
    · exact Text.not_mem_of_mem_splitOn hpiece
    · simpa using hsilent
    · exact hparent

theorem components_eq_append_below (p : Path) :
    p.components = anchorComponent p.anchor ++ p.below :=
  components_eq p

/-- The root is the only anchor that leaves something on the stack. -/
theorem stack_eq (p : Path) :
    p.stack = p.below.foldl pushComponent (if p.isAbsolute then [.root] else []) := by
  rw [stack, components_eq_append_below, List.foldl_append]
  obtain hanchor | hanchor | hanchor := anchor_cases p
  · rw [if_pos (isAbsolute_iff_anchor.mpr hanchor), hanchor]
    rfl
  · rw [if_neg (by simp [isAbsolute_iff_anchor, hanchor]), hanchor]
    rfl
  · rw [if_neg (by simp [isAbsolute_iff_anchor, hanchor]), hanchor]
    rfl

theorem components_of_chars_eq_nil {p : Path} (h : p.chars = []) : p.components = [] := by
  rw [components_eq, anchor, h]
  rfl

theorem components_join_append {p q : Path} (hq : q.isAbsolute = false) (hp : p.chars ≠ []) :
    (p.join q).components = p.components ++ q.below := by
  rw [components_eq, components_eq, anchor_join hq hp, visible_join hq hp, List.map_append,
    List.append_assoc, below]

/-- **Below a path** the stack goes on from that of the path, and an absolute path has its own. -/
theorem stack_join (p q : Path) :
    (p.join q).stack = if q.isAbsolute then q.stack else q.below.foldl pushComponent p.stack := by
  by_cases hq : q.isAbsolute = true
  · rw [if_pos hq, join, if_pos hq]
  · rw [if_neg hq]
    rw [Bool.not_eq_true] at hq
    by_cases hp : p.chars = []
    · have hempty : p.stack = [] := by
        rw [stack, components_of_chars_eq_nil hp]
        rfl
      rw [join_of_chars_eq_nil hp, stack_eq, hq, hempty]
      rfl
    · rw [stack, components_join_append hq hp, List.foldl_append]
      rfl

theorem below_join {p q : Path} (hq : q.isAbsolute = false) :
    (p.join q).below = p.below ++ q.below := by
  by_cases hp : p.chars = []
  · have hempty : p.below = [] := by
      rw [below, hp]
      rfl
    rw [join_of_chars_eq_nil hp, hempty, List.nil_append]
  · rw [below, visible_join hq hp, List.map_append]
    rfl

/-- It makes no difference to the stack where three paths are joined first. -/
theorem stack_join_join (p q r : Path) : (p.join (q.join r)).stack = ((p.join q).join r).stack := by
  rw [stack_join (p.join q) r, stack_join p (q.join r), isAbsolute_join]
  by_cases hr : r.isAbsolute = true
  · rw [if_pos hr, if_pos (by rw [hr, Bool.true_or]), join, if_pos hr]
  · have hr' : r.isAbsolute = false := Bool.eq_false_iff.mpr hr
    rw [if_neg hr, hr', Bool.false_or, stack_join q r, if_neg hr, stack_join p q]
    by_cases hq : q.isAbsolute = true
    · rw [if_pos hq, if_pos hq]
    · rw [if_neg hq, if_neg hq, below_join hr', List.foldl_append]

/-! ### Resolved components -/

/-- What is before the names: the root, or some number of `..`. -/
inductive IsStart : List Component → Prop
  | root : IsStart [.root]
  | parents (ups : Nat) : IsStart (List.replicate ups .parent)

/-- **Resolved components**: a start and then names. -/
def Resolved (cs : List Component) : Prop :=
  ∃ start names, IsStart start ∧ Plain names ∧ cs = start ++ names.map Component.name

variable {cs : List Component}

/-- **One component more** leaves the components resolved. -/
theorem Resolved.pushComponent {stack : List Component} {c : Component}
    (h : Resolved stack.reverse) (hc : IsStep c) :
    Resolved (pushComponent stack c).reverse := by
  obtain ⟨start, names, hstart, hnames, hstack⟩ := h
  rw [List.reverse_eq_iff] at hstack
  subst hstack
  cases hc with
  | @name text htext =>
    refine ⟨start, names ++ [text], hstart, hnames.concat htext, ?_⟩
    simp [Path.pushComponent]
  | parent =>
    obtain rfl | ⟨front, last, rfl⟩ := List.eq_nil_or_concat' names
    · -- Without a name to take away, the root stays and one more `..` is added to the others.
      cases hstart with
      | root => exact ⟨_, [], .root, hnames, rfl⟩
      | parents ups =>
        refine ⟨_, [], .parents (ups + 1), hnames, ?_⟩
        cases ups with
        | zero => rfl
        | succ ups => simp [List.replicate_succ, Path.pushComponent, ← List.replicate_succ']
    · exact ⟨start, front, hstart, hnames.of_append, by simp [Path.pushComponent]⟩

theorem Resolved.foldl_pushComponent {stack : List Component} (h : Resolved stack.reverse)
    (hcs : ∀ c ∈ cs, IsStep c) : Resolved (cs.foldl Path.pushComponent stack).reverse := by
  induction cs generalizing stack with
  | nil => exact h
  | cons c cs ih =>
    exact ih (h.pushComponent (hcs c List.mem_cons_self)) fun d hd =>
      hcs d (List.mem_cons_of_mem _ hd)

/-- **What resolving leaves** are resolved components. -/
theorem resolved_stack (p : Path) : Resolved p.stack.reverse := by
  rw [stack_eq]
  refine Resolved.foldl_pushComponent ?_ fun c hc => isStep_of_mem_below hc
  split
  · exact ⟨_, [], .root, nofun, rfl⟩
  · exact ⟨_, [], .parents 0, nofun, rfl⟩

theorem IsStart.foldl_pushComponent {start : List Component} (h : IsStart start) :
    start.foldl Path.pushComponent [] = start.reverse := by
  cases h with
  | root => rfl
  | parents ups =>
    rw [List.reverse_replicate]
    induction ups with
    | zero => rfl
    | succ ups ih =>
      rw [List.replicate_succ', List.foldl_append, ih, ← List.replicate_succ']
      cases ups <;> rfl

theorem foldl_pushComponent_names (names : List String) (stack : List Component) :
    (names.map Component.name).foldl pushComponent stack =
      (names.map Component.name).reverse ++ stack := by
  induction names generalizing stack with
  | nil => rfl
  | cons name names ih =>
    rw [List.map_cons, List.foldl_cons, ih, List.reverse_cons, List.append_assoc]
    rfl

/-- **Resolving once more** changes nothing. -/
theorem Resolved.foldl_pushComponent_eq (h : Resolved cs) :
    cs.foldl Path.pushComponent [] = cs.reverse := by
  obtain ⟨start, names, hstart, -, rfl⟩ := h
  rw [List.foldl_append, hstart.foldl_pushComponent, foldl_pushComponent_names,
    List.reverse_append]

/-- Among resolved components the root is the first or none. -/
theorem Resolved.root_mem_iff (h : Resolved cs) :
    Component.root ∈ cs ↔ ∃ names, Plain names ∧ cs = .root :: names.map Component.name := by
  constructor
  · obtain ⟨start, names, hstart, hnames, rfl⟩ := h
    intro hroot
    cases hstart with
    | root => exact ⟨names, hnames, rfl⟩
    | parents ups => simp at hroot
  · rintro ⟨names, -, rfl⟩
    exact List.mem_cons_self

/-! ### Spelling resolved components -/

/-- What a step is spelled with is a piece that stands for it. -/
theorem IsStep.spelling {c : Component} (h : IsStep c) :
    '/' ∉ (ofComponent c).chars ∧ isSilent (ofComponent c).chars = false ∧
      segmentComponent (ofComponent c).chars = c := by
  cases h with
  | parent => exact ⟨by decide, by decide, by decide⟩
  | name h => exact ⟨h.no_slash, h.not_silent, segmentComponent_toList h⟩

theorem Plain.isStep {names : List String} (h : Plain names) :
    ∀ c ∈ names.map Component.name, IsStep c := by
  intro c hc
  obtain ⟨name, hname, rfl⟩ := List.mem_map.mp hc
  exact .name (h name hname)

section Steps

variable (h : ∀ c ∈ cs, IsStep c)
include h

/-- The text of some steps has their spellings for its pieces. -/
theorem chars_ofComponents_steps :
    (ofComponents cs).chars = Text.join '/' (cs.map fun c => (ofComponent c).chars) := by
  refine chars_ofComponents fun c hc => ⟨?_, (h c hc).spelling.1⟩
  intro hnil
  have hsilent := (h c hc).spelling.2.1
  rw [hnil] at hsilent
  simp [isSilent] at hsilent

theorem splitOn_ofComponents_steps (hne : cs ≠ []) :
    Text.splitOn '/' (ofComponents cs).chars = cs.map fun c => (ofComponent c).chars := by
  rw [chars_ofComponents_steps h]
  refine Text.splitOn_join (by simpa using hne) fun piece hpiece => ?_
  obtain ⟨c, hc, rfl⟩ := List.mem_map.mp hpiece
  exact (h c hc).spelling.1

/-- **Steps that are spelled** are read again. -/
theorem components_ofComponents_steps : (ofComponents cs).components = cs := by
  have hpieces : ∀ piece ∈ cs.map fun c => (ofComponent c).chars, isSilent piece = false := by
    intro piece hpiece
    obtain ⟨c, hc, rfl⟩ := List.mem_map.mp hpiece
    exact (h c hc).spelling.2.1
  have hspelling : IsSpelling [] (cs.map fun c => (ofComponent c).chars) := by
    refine ⟨fun piece hpiece => ?_, .inr (.inr ⟨rfl, fun s hs => ?_⟩)⟩
    · obtain ⟨c, hc, rfl⟩ := List.mem_map.mp hpiece
      exact (h c hc).spelling.1
    · exact hpieces s (List.mem_of_head? hs)
  have hpath : ofComponents cs = ofChars ([] ++ Text.join '/' (cs.map fun c =>
      (ofComponent c).chars)) := by
    rw [List.nil_append, ← chars_ofComponents_steps h, ofChars, chars, String.ofList_toList]
  have hvisible : (cs.map fun c => (ofComponent c).chars).filter (fun s => !isSilent s) =
      cs.map fun c => (ofComponent c).chars :=
    List.filter_eq_self.mpr fun piece hpiece => by simp [hpieces piece hpiece]
  rw [hpath, hspelling.components_ofChars, hvisible, List.map_map]
  exact (List.map_congr_left fun c hc => (h c hc).spelling.2.2).trans (List.map_id cs)

end Steps

/-- Resolved components without the root are steps. -/
theorem Resolved.isStep (h : Resolved cs) (hroot : Component.root ∉ cs) : ∀ c ∈ cs, IsStep c := by
  obtain ⟨start, names, hstart, hnames, rfl⟩ := h
  intro c hc
  obtain hc | hc := List.mem_append.mp hc
  · cases hstart with
    | root => exact absurd (List.mem_append_left _ List.mem_cons_self) hroot
    | parents ups =>
      rw [List.eq_of_mem_replicate hc]
      exact .parent
  · exact hnames.isStep c hc

/-- **Resolved components that are spelled** are read again. -/
theorem Resolved.components_ofComponents (h : Resolved cs) : (ofComponents cs).components = cs := by
  by_cases hroot : Component.root ∈ cs
  · obtain ⟨names, hnames, rfl⟩ := h.root_mem_iff.mp hroot
    rw [ofComponents_root_cons hnames, components_ofNames hnames]
  · exact components_ofComponents_steps (h.isStep hroot)

/-- The pieces of the text of resolved components: after the first, none of them is silent, unless
the text is that of the root. -/
theorem Resolved.splitOn_ofComponents (h : Resolved cs) :
    (ofComponents cs).chars = ['/'] ∨
      ∃ first rest, Text.splitOn '/' (ofComponents cs).chars = first :: rest ∧
        (first = [] ∨ isSilent first = false) ∧ ∀ piece ∈ rest, isSilent piece = false := by
  by_cases hroot : Component.root ∈ cs
  · obtain ⟨names, hnames, rfl⟩ := h.root_mem_iff.mp hroot
    rw [ofComponents_root_cons hnames, chars_ofNames]
    by_cases hne : names = []
    · subst hne
      exact .inl rfl
    · refine .inr ⟨[], names.map String.toList, ?_, .inl rfl, fun piece hpiece => ?_⟩
      · rw [Text.splitOn, if_pos rfl, splitOn_join_names hnames hne]
      · obtain ⟨name, hname, rfl⟩ := List.mem_map.mp hpiece
        exact (hnames name hname).not_silent
  · have hsteps := h.isStep hroot
    have hpieces : ∀ c ∈ cs, isSilent (ofComponent c).chars = false := fun c hc =>
      (hsteps c hc).spelling.2.1
    cases cs with
    | nil => exact .inr ⟨[], [], rfl, .inl rfl, fun _ h => absurd h List.not_mem_nil⟩
    | cons c cs =>
      refine .inr ⟨_, _, splitOn_ofComponents_steps hsteps (List.cons_ne_nil c cs),
        .inr (hpieces c List.mem_cons_self), fun piece hpiece => ?_⟩
      obtain ⟨d, hd, rfl⟩ := List.mem_map.mp hpiece
      exact hpieces d (List.mem_cons_of_mem c hd)

/-- **Resolved components are spelled as a normal path.** -/
theorem Resolved.isNormal (h : Resolved cs) : (ofComponents cs).IsNormal := by
  have hcomponents := h.components_ofComponents
  have hpieces : ∀ {piece : List Char}, isSilent piece = true →
      piece ∈ (Text.splitOn '/' (ofComponents cs).chars).tail → (ofComponents cs).chars = ['/'] := by
    intro piece hsilent hpiece
    obtain hroot | ⟨first, rest, hsplit, -, hrest⟩ := h.splitOn_ofComponents
    · exact hroot
    · rw [hsplit] at hpiece
      exact absurd (hrest piece hpiece) (by simp [hsilent])
  refine ⟨?_, ?_, ?_, fun hdoubled => ?_, fun hroot hlast => ?_⟩
  · obtain ⟨start, names, hstart, -, rfl⟩ := h
    rw [hcomponents]
    cases hstart <;> simp
  · obtain hroot | ⟨first, rest, hsplit, hfirst, hrest⟩ := h.splitOn_ofComponents
    · rw [hroot]
      decide
    · rw [hsplit, List.mem_cons, not_or]
      refine ⟨fun hdot => ?_, fun hdot => absurd (hrest _ hdot) (by decide)⟩
      subst hdot
      exact absurd hfirst (by decide)
  · rw [hcomponents]
    obtain ⟨start, names, hstart, -, rfl⟩ := h
    cases hstart with
    | root => exact ⟨0, _, rfl, by simp⟩
    | parents ups => exact ⟨ups, _, rfl, by simp⟩
  · have hroot := hpieces rfl (Text.nil_mem_tail_of_doubled hdoubled)
    rw [hroot] at hdoubled
    exact absurd hdoubled.length_le (by decide)
  · exact hroot (hpieces rfl (Text.nil_mem_tail_of_getLast? hlast))

/-! ### Normalizing -/

theorem normalize_eq (directory file : Path) :
    normalize directory file = ofComponents (directory.join file).stack.reverse :=
  rfl

theorem components_normalize (directory file : Path) :
    (normalize directory file).components = (directory.join file).stack.reverse := by
  rw [normalize_eq, (resolved_stack _).components_ofComponents]

/-- **A normal form has the stack** of the path that it comes from. -/
theorem stack_normalize (directory file : Path) :
    (normalize directory file).stack = (directory.join file).stack := by
  rw [stack, components_normalize, (resolved_stack _).foldl_pushComponent_eq, List.reverse_reverse]

/-- Neither pushing a step nor taking a name away touches a root. -/
theorem root_mem_pushComponent_iff {stack : List Component} {c : Component} (hc : IsStep c) :
    Component.root ∈ pushComponent stack c ↔ Component.root ∈ stack := by
  cases hc with
  | name h => simp [pushComponent]
  | parent =>
    cases stack with
    | nil => simp [pushComponent]
    | cons top rest => cases top <;> simp [pushComponent]

theorem root_mem_foldl_pushComponent_iff {stack : List Component} (hcs : ∀ c ∈ cs, IsStep c) :
    Component.root ∈ cs.foldl pushComponent stack ↔ Component.root ∈ stack := by
  induction cs generalizing stack with
  | nil => rfl
  | cons c cs ih =>
    rw [List.foldl_cons, ih fun d hd => hcs d (List.mem_cons_of_mem _ hd),
      root_mem_pushComponent_iff (hcs c List.mem_cons_self)]

theorem root_mem_stack_iff (p : Path) : Component.root ∈ p.stack ↔ p.isAbsolute = true := by
  rw [stack_eq, root_mem_foldl_pushComponent_iff fun c hc => isStep_of_mem_below hc]
  split <;> simp [*]

/-- **A normal form is absolute** if one of the two paths is. -/
theorem isAbsolute_normalize (directory file : Path) :
    (normalize directory file).isAbsolute = true ↔
      directory.isAbsolute = true ∨ file.isAbsolute = true := by
  rw [← root_mem_stack_iff, stack_normalize, root_mem_stack_iff, isAbsolute_join, Bool.or_eq_true,
    or_comm]

/-- Nothing leads up from the root. -/
theorem parent_not_mem_normalize {directory file : Path}
    (h : (normalize directory file).isAbsolute = true) :
    Component.parent ∉ (normalize directory file).components := by
  rw [← root_mem_stack_iff, stack_normalize, ← List.mem_reverse] at h
  obtain ⟨names, -, hnames⟩ := (resolved_stack _).root_mem_iff.mp h
  rw [components_normalize, hnames]
  simp

/-- **Normalizing a normal form** from where it is found gives it again. -/
theorem normalize_of_join_eq {directory file other : Path}
    (h : other.join (normalize directory file) = normalize directory file) :
    normalize other (normalize directory file) = normalize directory file := by
  rw [normalize_eq other, h, stack_normalize, ← normalize_eq]

/-- **Below a path and below its normal form** there are the same normal forms. -/
theorem normalize_normalize (directory file inner : Path) :
    normalize directory (file.join inner) = normalize (normalize directory file) inner := by
  rw [normalize_eq, normalize_eq, stack_join_join, stack_join _ inner,
    stack_join (normalize directory file), stack_normalize]

/-! ### Where a path leads -/

/-- Where a component leads to, from a place that is told by names. -/
def lead (here : List String) : Component → List String
  | .root => []
  | .current => here
  | .parent => here.dropLast
  | .name text => here ++ [text]

/-- **Resolving one component** leads nowhere else than the component. -/
theorem foldl_lead_pushComponent (here : List String) (stack : List Component) (c : Component) :
    (pushComponent stack c).reverse.foldl lead here =
      lead (stack.reverse.foldl lead here) c := by
  cases c with
  | current => rfl
  | root => simp [pushComponent, List.foldl_append]
  | name text => simp [pushComponent, List.foldl_append]
  | parent =>
    cases stack with
    | nil => rfl
    | cons top rest => cases top <;> simp [pushComponent, List.foldl_append, lead]

theorem foldl_lead_resolveDots (here : List String) (cs stack : List Component) :
    (cs.foldl pushComponent stack).reverse.foldl lead here =
      cs.foldl lead (stack.reverse.foldl lead here) := by
  induction cs generalizing stack with
  | nil => rfl
  | cons c cs ih => rw [List.foldl_cons, ih, foldl_lead_pushComponent, List.foldl_cons]

/-- Walking past silent pieces leads nowhere, and any other leads where its component does. -/
theorem foldl_walk_eq (pieces : List (List Char)) (here : List String) :
    pieces.foldl walk here =
      ((pieces.filter fun piece => !isSilent piece).map segmentComponent).foldl lead here := by
  induction pieces generalizing here with
  | nil => rfl
  | cons piece pieces ih =>
    rw [List.foldl_cons, ih, walk]
    by_cases hsilent : isSilent piece = true
    · rw [if_pos hsilent, List.filter_cons_of_neg (by simp [hsilent])]
    · rw [if_neg hsilent, List.filter_cons_of_pos (by simpa using hsilent), List.map_cons,
        List.foldl_cons, segmentComponent]
      by_cases hparent : piece = ['.', '.']
      · rw [if_pos hparent, if_pos hparent]
        rfl
      · rw [if_neg hparent, if_neg hparent]
        rfl

/-- **Where a path leads to** can be read off its components. -/
theorem landing_eq (here : List String) (p : Path) :
    landing here p = p.components.foldl lead here := by
  rw [landing, foldl_walk_eq, components_eq_append_below, List.foldl_append]
  refine congrArg (fun start => p.below.foldl lead start) ?_
  obtain hanchor | hanchor | hanchor := anchor_cases p
  · rw [if_pos (isAbsolute_iff_anchor.mpr hanchor), hanchor]
    rfl
  · rw [if_neg (by simp [isAbsolute_iff_anchor, hanchor]), hanchor]
    rfl
  · rw [if_neg (by simp [isAbsolute_iff_anchor, hanchor]), hanchor]
    rfl

/-- **A normal form leads where the path leads.** -/
theorem landing_normalize (here : List String) (directory file : Path) :
    landing here (normalize directory file) = landing here (directory.join file) := by
  rw [landing_eq, landing_eq, components_normalize, stack, foldl_lead_resolveDots]
  rfl

/-- **Normalizing is canonical and can be done piecewise.** The normal form of a file below a
directory has no `.`, no `..` but at its start, and there only if both paths are relative, no doubled
slash and none at its end; it is absolute exactly if one of the two is; normalized again, from
anywhere if it is absolute and from the empty path otherwise, it is itself; what is below the file
might as well be looked for below the normal form; and the normal form names the place that the file
below the directory names, wherever the two are read. -/
theorem normalize_canonical_compositional (directory file : Path) :
    let normal := normalize directory file
    normal.IsNormal ∧
    (.parent ∈ normal.components → directory.isAbsolute = false ∧ file.isAbsolute = false) ∧
    (normal.isAbsolute = true ↔ directory.isAbsolute = true ∨ file.isAbsolute = true) ∧
    (normal.isAbsolute = true → ∀ other, normalize other normal = normal) ∧
    normalize ⟨""⟩ normal = normal ∧
    (∀ inner, normalize directory (file.join inner) = normalize normal inner) ∧
    ∀ fs : FileSystem, fs.intended normal = fs.intended (directory.join file) := by
  intro normal
  refine ⟨(resolved_stack _).isNormal, fun hparent => ?_, isAbsolute_normalize directory file,
    fun habsolute other => ?_, ?_, normalize_normalize directory file, fun fs => ?_⟩
  · have hrelative : ¬normal.isAbsolute = true := fun habsolute =>
      parent_not_mem_normalize habsolute hparent
    rw [isAbsolute_normalize, not_or, Bool.not_eq_true, Bool.not_eq_true] at hrelative
    exact hrelative
  · exact normalize_of_join_eq (by rw [join, if_pos habsolute])
  · exact normalize_of_join_eq (join_of_chars_eq_nil rfl _)
  · exact landing_normalize fs.current directory file

/-- A file that leaves the root and one that is above where it is read from. -/
theorem normalize_canonical_compositional_upwards :
    let rooted := normalize ⟨"/w//proj/"⟩ ⟨"./../../../lib/./sub/../b"⟩
    let loose := normalize ⟨"src"⟩ ⟨"../../x//.."⟩
    (rooted = ⟨"/lib/b"⟩ ∧ rooted.isAbsolute = true ∧ normalize ⟨"/w"⟩ rooted = rooted ∧
      normalize ⟨"/w//proj/"⟩ ((⟨"./../../../lib/./sub/../b"⟩ : Path).join ⟨"../c"⟩) =
        normalize rooted ⟨"../c"⟩ ∧ normalize rooted ⟨"../c"⟩ = ⟨"/lib/c"⟩) ∧
    loose = ⟨".."⟩ ∧ .parent ∈ loose.components ∧ (⟨"src"⟩ : Path).isAbsolute = false ∧
      normalize ⟨"/w"⟩ loose ≠ loose ∧ normalize ⟨""⟩ loose = loose := by
  intro rooted loose
  obtain ⟨-, -, -, hfixed, -, hinner, -⟩ :=
    normalize_canonical_compositional ⟨"/w//proj/"⟩ ⟨"./../../../lib/./sub/../b"⟩
  obtain ⟨-, hrelative, -, -, hempty, -⟩ :=
    normalize_canonical_compositional ⟨"src"⟩ ⟨"../../x//.."⟩
  have habsolute : rooted.isAbsolute = true := by decide +kernel
  have hparent : .parent ∈ loose.components := by decide +kernel
  exact ⟨⟨by decide +kernel, habsolute, hfixed habsolute ⟨"/w"⟩, hinner ⟨"../c"⟩, by decide +kernel⟩,
    by decide +kernel, hparent, (hrelative hparent).1, by decide +kernel, hempty⟩

end Path

end LintHost
