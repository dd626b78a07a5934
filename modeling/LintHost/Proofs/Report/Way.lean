import LintHost.CheckerReport
import LintHost.Proofs.Path.Normal

/-!
# The way from a directory to a file

A checker that runs in a directory names a file by the way from there, so the parser of a report
looks for that spelling first. How the way is found and how it is followed are two algorithms that
know nothing of each other: the one walks along two lists of components as long as they agree, the
other joins two texts and resolves what it reads of them with a stack. This file shows that they are
inverse to each other.

A way climbs out of all that the directory has beyond what it shares with the file, and then goes
down along all that the file has beyond it (`LintHost.Path.IsWay`). Between places without `..` there
is always such a way (`LintHost.Path.exists_relativeTo?`), which resolving takes back to the file
(`LintHost.Path.IsWay.arrives`). What the two share is the longest prefix of components, not of
characters: `/w/lib` and `/w/library` share `/w`.
-/

namespace LintHost

/-! ### Where two lists part -/

section Parting

variable {α : Type} {common down up : List α}

/-- **Two lists part at once**: they do not begin alike. -/
def Parted (down up : List α) : Prop :=
  ∀ a, down.head? = some a → up.head? ≠ some a

/-- Any two lists begin alike for a while and then part. -/
theorem exists_parted [DecidableEq α] (l m : List α) :
    ∃ common down up, l = common ++ down ∧ m = common ++ up ∧ Parted down up := by
  induction l generalizing m with
  | nil => exact ⟨[], [], m, rfl, rfl, nofun⟩
  | cons a l ih =>
    cases m with
    | nil => exact ⟨[], a :: l, [], rfl, rfl, nofun⟩
    | cons b m =>
      by_cases hab : a = b
      · obtain ⟨common, down, up, rfl, rfl, hparted⟩ := ih m
        exact ⟨a :: common, down, up, rfl, by rw [hab]; rfl, hparted⟩
      · refine ⟨[], a :: l, b :: m, rfl, rfl, fun c hc hb => hab ?_⟩
        exact (Option.some.inj hc).trans (Option.some.inj hb).symm

theorem Parted.map {β : Type} {f : α → β} (hf : Function.Injective f) (h : Parted down up) :
    Parted (down.map f) (up.map f) := by
  intro b hdown hup
  rw [List.head?_map, Option.map_eq_some_iff] at hdown hup
  obtain ⟨a, ha, rfl⟩ := hdown
  obtain ⟨a', ha', heq⟩ := hup
  exact h a ha (hf heq ▸ ha')

/-- **Where two lists part** they have their longest common prefix behind them. -/
theorem Parted.isPrefix (h : Parted down up) {other : List α} (hdown : other <+: common ++ down)
    (hup : other <+: common ++ up) : other <+: common := by
  obtain hshort | ⟨more, rfl⟩ := List.prefix_or_prefix_of_prefix hdown (List.prefix_append _ _)
  · exact hshort
  · rw [List.prefix_append_right_inj] at hdown hup
    cases more with
    | nil => simp
    | cons a more =>
      obtain ⟨rest, rfl⟩ := hdown
      obtain ⟨rest', rfl⟩ := hup
      exact absurd rfl (h a rfl)

end Parting

namespace Path

variable {file directory way : Path}

/-- **A way from a directory to a file**: it climbs as often as the directory has components beyond
the longest common prefix, goes down along those that the file has, and arrives at the file. -/
structure IsWay (directory file way : Path) : Prop where
  not_empty : way.text ≠ ""
  relative : way.isAbsolute = false
  steps : ∃ common up down, directory.components = common ++ up ∧ file.components = common ++ down ∧
    (∀ other, other <+: directory.components → other <+: file.components → other <+: common) ∧
    way.components = List.replicate up.length .parent ++ down ∧ .parent ∉ down
  arrives : (normalize directory way).same file = true

/-! ### Finding the way -/

/-- Steps none of which is `..` are names. -/
theorem exists_names_of_steps {cs : List Component} (h : ∀ c ∈ cs, IsStep c)
    (hparent : .parent ∉ cs) : ∃ names, Plain names ∧ cs = names.map Component.name := by
  induction cs with
  | nil => exact ⟨[], nofun, rfl⟩
  | cons c cs ih =>
    rw [List.mem_cons, not_or] at hparent
    obtain ⟨names, hnames, rfl⟩ := ih (fun d hd => h d (List.mem_cons_of_mem _ hd)) hparent.2
    cases h c List.mem_cons_self with
    | parent => exact absurd rfl hparent.1
    | @name text htext => exact ⟨text :: names, List.forall_mem_cons.mpr ⟨htext, hnames⟩, rfl⟩

/-- An absolute path without `..` has nothing but names below the root. -/
theorem exists_names {p : Path} (hp : p.isAbsolute = true) (hparent : .parent ∉ p.components) :
    ∃ names, Plain names ∧ p.components = .root :: names.map Component.name := by
  rw [components_eq_append_below, isAbsolute_iff_anchor.mp hp, List.mem_append, not_or] at hparent
  obtain ⟨names, hnames, hbelow⟩ :=
    exists_names_of_steps (fun c hc => isStep_of_mem_below hc) hparent.2
  refine ⟨names, hnames, ?_⟩
  rw [components_eq_append_below, isAbsolute_iff_anchor.mp hp, hbelow]
  rfl

/-- **The steps between two places** that part after `common`, where the first one of those to climb
out of is known by its name. -/
theorem stepsBetween_of_parted (common : List Component) {down up : List Component}
    (h : Parted down up)
    (hup : ∀ c ∈ up, c ≠ .current ∧ c ≠ .parent) :
    stepsBetween true (common ++ down) (common ++ up) =
      some (List.replicate up.length .parent ++ down) := by
  induction common with
  | cons c common ih => rw [List.cons_append, List.cons_append, stepsBetween, if_pos ⟨rfl, rfl⟩, ih]
  | nil =>
    rw [List.nil_append, List.nil_append]
    cases up with
    | nil => cases down <;> rfl
    | cons b up =>
      obtain ⟨hcurrent, hparent⟩ := hup b List.mem_cons_self
      cases down with
      | nil => simp [stepsBetween, List.map_const', List.replicate_succ]
      | cons c down =>
        have hcb : ¬(true = true ∧ c = b) := fun heq => h c rfl (by rw [heq.2]; rfl)
        rw [stepsBetween, if_neg hcb, if_neg hcurrent, if_neg hparent, List.map_const']
        rfl

/-! ### Following the way -/

/-- Climbing out of some names takes them off the stack. -/
theorem foldl_pushComponent_parents (names : List String) (stack : List Component) :
    (List.replicate names.length .parent).foldl pushComponent
      ((names.map Component.name).reverse ++ stack) = stack := by
  induction names using List.reverseRecOn with
  | nil => rfl
  | append_singleton names last ih =>
    rw [List.length_append, List.length_singleton, List.replicate_succ, List.foldl_cons,
      List.map_append, List.map_singleton, List.reverse_concat]
    exact ih

/-- What is put below an absolute path without `..` goes on from its names. -/
theorem stack_of_names {p : Path} {names : List String} (hnames : Plain names)
    (hp : p.components = .root :: names.map Component.name) :
    p.stack = (names.map Component.name).reverse ++ [.root] := by
  have hresolved : Resolved p.components := ⟨[.root], names, .root, hnames, hp⟩
  rw [stack, hresolved.foldl_pushComponent_eq, hp, List.reverse_cons]

/-- Without an anchor all components are below it. -/
theorem below_eq_components {p : Path} (hroot : .root ∉ p.components)
    (hcurrent : .current ∉ p.components) : p.below = p.components := by
  rw [components_eq_append_below] at hroot hcurrent ⊢
  obtain hanchor | hanchor | hanchor := anchor_cases p <;> rw [hanchor] at hroot hcurrent ⊢
  · exact absurd (List.mem_append_left _ List.mem_cons_self) hroot
  · exact absurd (List.mem_append_left _ List.mem_cons_self) hcurrent
  · rfl

/-- **The way that climbs and goes down** leads from the one place to the other, whatever names the two
share. -/
theorem isWay_of_parted {front down up : List String} (hplain : Plain (front ++ down))
    (hfile : file.components = .root :: (front ++ down).map Component.name)
    (hplain' : Plain (front ++ up))
    (hdirectory : directory.components = .root :: (front ++ up).map Component.name)
    (hparted : Parted down up) (hne : file.components ≠ directory.components) :
    directory.IsWay file
      (ofComponents (List.replicate up.length .parent ++ down.map Component.name)) := by
  have hdown : Plain down := fun name hname => hplain name (List.mem_append_right _ hname)
  have hcomponents : (ofComponents (List.replicate up.length .parent ++
      down.map Component.name)).components =
        List.replicate up.length .parent ++ down.map Component.name :=
    Resolved.components_ofComponents ⟨_, down, .parents up.length, hdown, rfl⟩
  generalize ofComponents (List.replicate up.length .parent ++ down.map Component.name) = way
    at hcomponents
  have hroot : .root ∉ way.components := by simp [hcomponents]
  have hcurrent : .current ∉ way.components := by simp [hcomponents]
  have hrelative : way.isAbsolute = false := by
    rw [Bool.eq_false_iff, ne_eq, isAbsolute_iff_components]
    exact fun hhead => hroot (List.mem_of_head? hhead)
  refine ⟨fun hempty => hne ?_, hrelative, ?_, ?_⟩
  · -- An empty way neither climbs nor goes down, and then the two are one place.
    rw [components_of_chars_eq_nil (by rw [chars, hempty]; rfl), eq_comm, List.append_eq_nil_iff,
      List.replicate_eq_nil_iff, List.length_eq_zero_iff, List.map_eq_nil_iff] at hcomponents
    rw [hfile, hdirectory, hcomponents.1, hcomponents.2]
  · refine ⟨.root :: front.map Component.name, up.map Component.name, down.map Component.name,
      ?_, ?_, fun other hother hother' => ?_, ?_, by simp⟩
    · rw [hdirectory, List.map_append, List.cons_append]
    · rw [hfile, List.map_append, List.cons_append]
    · rw [hdirectory, List.map_append, ← List.cons_append] at hother
      rw [hfile, List.map_append, ← List.cons_append] at hother'
      exact (hparted.map fun _ _ heq => Component.name.inj heq).isPrefix hother' hother
    · rw [List.length_map, hcomponents]
  · have hstack : (directory.join way).stack.reverse = file.components := by
      rw [stack_join, if_neg (by simp [hrelative]), below_eq_components hroot hcurrent, hcomponents,
        stack_of_names hplain' hdirectory, List.map_append, List.reverse_append, List.append_assoc,
        List.foldl_append, foldl_pushComponent_parents, foldl_pushComponent_names, hfile]
      simp
    rw [same_iff, components_normalize, hstack]

/-- **Between two places without `..`** that are not the same, there is a way, and it is found. -/
theorem exists_relativeTo? (hfile : file.isAbsolute = true) (hdirectory : directory.isAbsolute = true)
    (hfileUp : .parent ∉ file.components) (hdirectoryUp : .parent ∉ directory.components)
    (hne : file.components ≠ directory.components) :
    ∃ way, file.relativeTo? directory = some way ∧ directory.IsWay file way := by
  obtain ⟨fileNames, hfileNames, hfileEq⟩ := exists_names hfile hfileUp
  obtain ⟨directoryNames, hdirectoryNames, hdirectoryEq⟩ := exists_names hdirectory hdirectoryUp
  obtain ⟨front, down, up, rfl, rfl, hparted⟩ := exists_parted fileNames directoryNames
  refine ⟨_, ?_, isWay_of_parted hfileNames hfileEq hdirectoryNames hdirectoryEq hparted hne⟩
  have hsteps := stepsBetween_of_parted (.root :: front.map Component.name)
    (hparted.map fun _ _ heq => Component.name.inj heq) fun c hc => by
      obtain ⟨name, -, rfl⟩ := List.mem_map.mp hc
      exact ⟨nofun, nofun⟩
  rw [relativeTo?, if_pos (hfile.trans hdirectory.symm), hfileEq, hdirectoryEq, List.map_append,
    List.map_append, ← List.cons_append, ← List.cons_append, hsteps, List.length_map,
    Option.map_some]

end Path

namespace ReportParser

end ReportParser

end LintHost
