import Mathlib.Data.List.Basic

/-!
# What is left of a sequence of events

The state of a store after many operations is mostly explained by the last of them that had a say.
Two readings of "the last" are enough for what this library keeps:

* `LintHost.latest? f xs` is what the last event gives that gives anything. It is about the values
  that events bring, such as texts and versions;
* `LintHost.Lasts undoes xs before x` says that the event `x` happens in `xs`, after the events
  `before`, and that none of the events after it undoes it. It is about what events bring about,
  such as being open or being a member.

Each has one equation for a sequence that goes on by one event, so that whoever keeps a store
follows it by induction from the end. Where it depends on what came before whether an event has a
say, there still is a last one that has (`LintHost.exists_last_place`).
-/

namespace LintHost

variable {α β : Type}

/-! ### The last value -/

/-- What the last event gives of those that give anything. -/
def latest? (f : α → Option β) (xs : List α) : Option β :=
  (xs.filterMap f).getLast?

theorem latest?_append (f : α → Option β) (xs ys : List α) :
    latest? f (xs ++ ys) = (latest? f ys).or (latest? f xs) := by
  rw [latest?, List.filterMap_append, List.getLast?_append]
  rfl

theorem latest?_singleton (f : α → Option β) (x : α) : latest? f [x] = f x := by
  rw [latest?]
  cases hx : f x <;> simp [hx]

theorem latest?_concat (f : α → Option β) (xs : List α) (x : α) :
    latest? f (xs ++ [x]) = (f x).or (latest? f xs) := by
  rw [latest?_append, latest?_singleton]

theorem latest?_cons (f : α → Option β) (x : α) (xs : List α) :
    latest? f (x :: xs) = (latest? f xs).or (f x) := by
  rw [← List.singleton_append, latest?_append, latest?_singleton]

/-- An event that gives nothing does not count. -/
theorem latest?_concat_of_none {f : α → Option β} {x : α} (h : f x = none) (xs : List α) :
    latest? f (xs ++ [x]) = latest? f xs := by
  rw [latest?_concat, h, Option.none_or]

/-! ### The last effect -/

/-- **An event that lasts**: it happens after some others, and nothing undoes it since. -/
def Lasts (undoes : α → Prop) (xs before : List α) (x : α) : Prop :=
  ∃ since, xs = before ++ x :: since ∧ ∀ y ∈ since, ¬undoes y

variable {undoes : α → Prop} {xs before : List α} {x y : α}

/-- The newest event lasts. -/
theorem lasts_concat_self (undoes : α → Prop) (xs : List α) (x : α) :
    Lasts undoes (xs ++ [x]) xs x :=
  ⟨[], rfl, by simp⟩

/-- An event that undoes nothing leaves all others as they are. -/
theorem Lasts.concat (h : Lasts undoes xs before x) (hy : ¬undoes y) :
    Lasts undoes (xs ++ [y]) before x := by
  obtain ⟨since, rfl, hsince⟩ := h
  refine ⟨since ++ [y], by simp, fun z hz => ?_⟩
  obtain hz | hz := List.mem_append.mp hz
  · exact hsince z hz
  · rwa [List.mem_singleton.mp hz]

theorem not_lasts_nil : ¬Lasts undoes [] before x := by
  rintro ⟨since, hnil, -⟩
  simp at hnil

/-- **What lasts** is the newest event, or something that it does not undo. -/
theorem lasts_concat_iff :
    Lasts undoes (xs ++ [y]) before x ↔
      (before = xs ∧ x = y) ∨ (Lasts undoes xs before x ∧ ¬undoes y) := by
  constructor
  · rintro ⟨since, hxs, hsince⟩
    obtain rfl | ⟨since, z, rfl⟩ := List.eq_nil_or_concat' since
    · obtain ⟨rfl, hx⟩ := List.append_inj' hxs rfl
      exact Or.inl ⟨rfl, (List.cons.inj hx).1.symm⟩
    · rw [← List.cons_append, ← List.append_assoc] at hxs
      obtain ⟨rfl, hz⟩ := List.append_inj' hxs rfl
      obtain ⟨rfl, -⟩ := List.cons.inj hz
      exact Or.inr ⟨⟨since, rfl, fun w hw => hsince w (List.mem_append_left _ hw)⟩,
        hsince y (List.mem_append_right _ (List.mem_singleton_self y))⟩
  · rintro (⟨rfl, rfl⟩ | ⟨h, hy⟩)
    · exact lasts_concat_self undoes _ _
    · exact h.concat hy

/-! ### The last place -/

/-- **Of the places of a sequence with a property that depends on what comes before them**, one is the
last, if there are any. -/
theorem exists_last_place {P : List α → α → Prop} {xs : List α}
    (h : ∃ before x after, xs = before ++ x :: after ∧ P before x) :
    ∃ before x after, xs = before ++ x :: after ∧ P before x ∧
      ∀ between y rest, after = between ++ y :: rest → ¬P (before ++ x :: between) y := by
  obtain ⟨before, x, after, hxs, hP⟩ := h
  -- Less and less comes after the places that are found.
  induction hn : after.length using Nat.strongRecOn generalizing before x after with
  | ind n ih =>
    by_cases hlater : ∃ between y rest, after = between ++ y :: rest ∧ P (before ++ x :: between) y
    · obtain ⟨between, y, rest, rfl, hy⟩ := hlater
      refine ih rest.length ?_ (before ++ x :: between) y rest (by simp [hxs]) hy rfl
      rw [← hn, List.length_append, List.length_cons]
      omega
    · exact ⟨before, x, after, hxs, hP, fun between y rest hafter hy =>
        hlater ⟨between, y, rest, hafter, hy⟩⟩

end LintHost
