import Mathlib.Data.List.Basic

/-!
# Lists of entries

Sections of configuration files, members of objects and open documents are all kept as lists of keys
with their values, in which the first entry of a key counts. These are the facts about looking up in
such a list that do not depend on what the entries are.
-/

namespace LintHost

variable {κ α : Type} {key : κ} {value : α} {entries others : List (κ × α)}

/-- A key that stands after others is none of them. -/
theorem not_mem_of_nodup_append_cons {e : κ × α} {more : List (κ × α)}
    (h : ((entries ++ e :: more).map (·.1)).Nodup) : e.1 ∉ entries.map (·.1) := by
  rw [List.map_append, List.nodup_append] at h
  exact fun hmem => h.2.2 _ hmem _ List.mem_cons_self rfl

variable [BEq κ] [LawfulBEq κ]

theorem mem_of_lookup (h : entries.lookup key = some value) : (key, value) ∈ entries := by
  obtain ⟨before, after, rfl, -⟩ := List.lookup_eq_some_iff.mp h
  exact List.mem_append_right _ List.mem_cons_self

theorem lookup_eq_none_of_not_mem (h : key ∉ entries.map (·.1)) : entries.lookup key = none := by
  rw [List.lookup_eq_none_iff]
  intro e he
  rw [bne_iff_ne]
  rintro rfl
  exact h (List.mem_map_of_mem he)

theorem lookup_append_singleton (h : key ∉ entries.map (·.1)) :
    (entries ++ [(key, value)]).lookup key = some value := by
  rw [List.lookup_append, lookup_eq_none_of_not_mem h, List.lookup_cons_self, Option.none_or]

/-- With keys that differ, a value is looked up exactly if it stands there with its key. -/
theorem lookup_eq_some_iff_mem (h : (entries.map (·.1)).Nodup) :
    entries.lookup key = some value ↔ (key, value) ∈ entries := by
  refine ⟨mem_of_lookup, fun hmem => ?_⟩
  obtain ⟨before, after, rfl⟩ := List.append_of_mem hmem
  have hnew : key ∉ before.map (·.1) := not_mem_of_nodup_append_cons h
  refine List.lookup_eq_some_iff.mpr ⟨before, after, rfl, fun e he => bne_iff_ne.mpr ?_⟩
  rintro rfl
  exact hnew (List.mem_map_of_mem he)

theorem lookup_perm (h : (entries.map (·.1)).Nodup) (hperm : entries.Perm others) (key : κ) :
    entries.lookup key = others.lookup key := by
  ext value
  rw [lookup_eq_some_iff_mem h, lookup_eq_some_iff_mem ((hperm.map _).nodup_iff.mp h),
    hperm.mem_iff]

/-! ### One entry more, and those of one key less -/

variable [DecidableEq κ] (key other : κ)

theorem lookup_cons_eq (entry : κ × α) (entries : List (κ × α)) :
    (entry :: entries).lookup other =
      if other = entry.1 then some entry.2 else entries.lookup other := by
  rw [List.lookup_cons]
  by_cases h : other = entry.1
  · rw [if_pos h, beq_iff_eq.mpr h]
  · rw [if_neg h, beq_false_of_ne h]

/-- Of the entries whose keys are kept, those that are kept are looked up as before. -/
theorem lookup_filter_key (kept : κ → Bool) (entries : List (κ × α)) :
    (entries.filter fun entry => kept entry.1).lookup other =
      if kept other then entries.lookup other else none := by
  induction entries with
  | nil => simp
  | cons entry entries ih =>
    by_cases hkept : kept entry.1 = true
    · rw [List.filter_cons, if_pos hkept, lookup_cons_eq, lookup_cons_eq, ih]
      by_cases hother : other = entry.1
      · rw [if_pos hother, if_pos hother, hother, if_pos hkept]
      · rw [if_neg hother, if_neg hother]
    · -- An entry that goes away has none of the kept keys.
      rw [List.filter_cons, if_neg hkept, ih, lookup_cons_eq]
      by_cases hother : other = entry.1
      · rw [hother, if_neg hkept, if_neg hkept]
      · rw [if_neg hother]

theorem lookup_filter_ne (entries : List (κ × α)) :
    (entries.filter (·.1 ≠ key)).lookup other =
      if other = key then none else entries.lookup other := by
  rw [lookup_filter_key other (fun k => decide (k ≠ key))]
  by_cases h : other = key <;> simp [h]

end LintHost
