import Mathlib
import LintHost.Text.Blank
import LintHost.Text.LetterCase

/-!
# Trimmed texts and lowered texts

A reader that trims its lines and lowers its keys stores texts of which trimming and lowering
change nothing any more, and this is what lets it read them again.

* `LintHost.Text.IsTrimmed` says that no white space stands at the ends; trimming leaves such a
  text (`LintHost.Text.isTrimmed_trim`) and does nothing to one
  (`LintHost.Text.IsTrimmed.trim_eq`).
* Where only ASCII letters have a lower case (`LintHost.Text.HasAsciiCase`), lowering works
  character by character (`LintHost.Text.toLower_eq_map`) and moves letters only, so every test
  that no letter passes gives the same answer on the lowered text
  (`LintHost.Text.test_toLower`).
-/

namespace LintHost.Text

variable {cs ds : List Char} {c : Char}

/-! ### Trimmed texts -/

/-- A text that neither starts nor ends with white space. -/
structure IsTrimmed (cs : List Char) : Prop where
  /-- The first character is visible. -/
  head : ∀ c, cs.head? = some c → isBlank c = false
  /-- The last character is visible. -/
  last : ∀ c, cs.getLast? = some c → isBlank c = false

theorem isTrimmed_nil : IsTrimmed [] := ⟨nofun, nofun⟩

theorem trimStart_eq (h : ∀ c, cs.head? = some c → isBlank c = false) : trimStart cs = cs := by
  cases cs with
  | nil => rfl
  | cons c cs => simp [trimStart, h c rfl]

theorem trimEnd_eq (h : ∀ c, cs.getLast? = some c → isBlank c = false) : trimEnd cs = cs := by
  have hrev : trimStart cs.reverse = cs.reverse := by
    refine trimStart_eq fun c hc => h c ?_
    rwa [List.head?_reverse] at hc
  rw [trimEnd, dropTrailing, ← trimStart, hrev, List.reverse_reverse]

theorem IsTrimmed.trim_eq (h : IsTrimmed cs) : trim cs = cs := by
  rw [trim, trimStart_eq h.head, trimEnd_eq h.last]

theorem not_isBlank_head_trimStart (h : (trimStart cs).head? = some c) : isBlank c = false := by
  have := List.head?_dropWhile_not isBlank cs
  rw [trimStart] at h
  rwa [h] at this

theorem not_isBlank_last_trimEnd (h : (trimEnd cs).getLast? = some c) : isBlank c = false := by
  rw [trimEnd, dropTrailing, List.getLast?_reverse] at h
  exact not_isBlank_head_trimStart h

theorem trimStart_isSuffix (cs : List Char) : trimStart cs <:+ cs :=
  List.dropWhile_suffix _

theorem trimEnd_isPrefix (cs : List Char) : trimEnd cs <+: cs := by
  rw [trimEnd, dropTrailing, ← List.reverse_suffix, List.reverse_reverse]
  exact List.dropWhile_suffix _

theorem mem_of_mem_trim (h : c ∈ trim cs) : c ∈ cs :=
  (trimStart_isSuffix cs).subset ((trimEnd_isPrefix _).subset h)

/-- What stands at the end of a text also stands at the end of any of its suffixes. -/
theorem getLast?_of_isSuffix (h : ds <:+ cs) (hc : ds.getLast? = some c) :
    cs.getLast? = some c := by
  obtain ⟨front, rfl⟩ := h
  rw [List.getLast?_append, hc, Option.some_or]

theorem head?_of_isPrefix (h : ds <+: cs) (hc : ds.head? = some c) : cs.head? = some c := by
  obtain ⟨back, rfl⟩ := h
  rw [List.head?_append, hc, Option.some_or]

/-- **Trimming leaves a trimmed text.** -/
theorem isTrimmed_trim (cs : List Char) : IsTrimmed (trim cs) where
  head _ hc := not_isBlank_head_trimStart (head?_of_isPrefix (trimEnd_isPrefix _) hc)
  last _ hc := not_isBlank_last_trimEnd hc

theorem IsTrimmed.trimStart_isSuffix (h : IsTrimmed cs) (hd : ds <:+ cs) :
    IsTrimmed (trimStart ds) where
  head _ hc := not_isBlank_head_trimStart hc
  last _ hc := h.last _ (getLast?_of_isSuffix ((Text.trimStart_isSuffix ds).trans hd) hc)

theorem IsTrimmed.trimEnd_isPrefix (h : IsTrimmed cs) (hd : ds <+: cs) :
    IsTrimmed (trimEnd ds) where
  head _ hc := h.head _ (head?_of_isPrefix ((Text.trimEnd_isPrefix ds).trans hd) hc)
  last _ hc := not_isBlank_last_trimEnd hc

/-- Two trimmed texts with anything between them, when neither is empty. -/
theorem IsTrimmed.append (h : IsTrimmed cs) (hd : IsTrimmed ds) (hne : cs ≠ []) (hne' : ds ≠ [])
    (between : List Char) : IsTrimmed (cs ++ between ++ ds) where
  head c hc := by
    cases cs with
    | nil => exact absurd rfl hne
    | cons first rest => exact h.head c hc
  last c hc := by
    rw [List.getLast?_append, List.getLast?_eq_some_getLast hne', Option.some_or] at hc
    exact hd.last c (by rw [List.getLast?_eq_some_getLast hne', hc])

theorem isTrimmed_singleton (h : isBlank c = false) : IsTrimmed [c] where
  head _ hd := by
    rwa [← Option.some.inj hd]
  last _ hd := by
    rwa [← Option.some.inj hd]

theorem trimStart_cons (h : isBlank c = true) (cs : List Char) :
    trimStart (c :: cs) = trimStart cs := by
  simp [trimStart, h]

theorem trimEnd_append (h : isBlank c = true) (cs : List Char) :
    trimEnd (cs ++ [c]) = trimEnd cs := by
  simp [trimEnd, dropTrailing, h]

/-- A blank at the end is not seen. -/
theorem trim_append (h : isBlank c = true) (cs : List Char) : trim (cs ++ [c]) = trim cs := by
  induction cs with
  | nil => simp [trim, trimStart, trimEnd, dropTrailing, h]
  | cons first rest ih =>
    by_cases hfirst : isBlank first = true
    · rw [List.cons_append, trim, trimStart_cons hfirst, ← trim, ih, trim, trim,
        trimStart_cons hfirst]
    · have hhead : ∀ more, trimStart (first :: more) = first :: more := fun more =>
        trimStart_eq fun d hd => by simpa [Option.some.inj hd] using hfirst
      rw [List.cons_append, trim, hhead, ← List.cons_append, trimEnd_append h, trim, hhead]

/-- **Nor are several.** -/
theorem trim_append_blanks {blanks : List Char} (h : ∀ c ∈ blanks, isBlank c = true)
    (cs : List Char) : trim (cs ++ blanks) = trim cs := by
  induction blanks generalizing cs with
  | nil => rw [List.append_nil]
  | cons c blanks ih =>
    rw [List.append_cons, ih fun d hd => h d (List.mem_cons_of_mem _ hd),
      trim_append (h c List.mem_cons_self)]

/-- A text that starts with blanks is trimmed from its first visible character on. -/
theorem head?_trim {blanks more : List Char} (h : ∀ c ∈ blanks, isBlank c = true)
    (hc : isBlank c = false) : (trim (blanks ++ c :: more)).head? = some c := by
  have hstart : trimStart (blanks ++ c :: more) = c :: more := by
    rw [trimStart, List.dropWhile_append_of_pos h, ← trimStart]
    exact trimStart_eq fun d hd => by rwa [← Option.some.inj hd]
  have hne : trimEnd (c :: more) ≠ [] := by
    intro hnil
    rw [trimEnd, dropTrailing, List.reverse_eq_nil_iff, List.dropWhile_eq_nil_iff] at hnil
    simpa [hc] using hnil c (by simp)
  obtain ⟨d, ds, hds⟩ := List.exists_cons_of_ne_nil hne
  have hhead := head?_of_isPrefix (c := d) (trimEnd_isPrefix (c :: more)) (by rw [hds]; rfl)
  rw [trim, hstart, hds, ← Option.some.inj hhead]
  rfl

/-! ### Lowered texts -/

/-- A character that has a lower case of its own only as a letter of ASCII. -/
def HasAsciiCase (c : Char) : Prop :=
  0x80 ≤ c.toNat → toLower [c] = [c]

instance (c : Char) : Decidable (HasAsciiCase c) :=
  inferInstanceAs (Decidable (0x80 ≤ c.toNat → toLower [c] = [c]))

/-- The letters of ASCII lie between `A` and `z`. -/
theorem toNat_of_isAlpha (h : c.isAlpha = true) : 0x41 ≤ c.toNat ∧ c.toNat ≤ 0x7a := by
  simp only [Char.isAlpha, Char.isUpper, Char.isLower, Bool.or_eq_true, Bool.and_eq_true,
    decide_eq_true_eq, ge_iff_le, UInt32.le_iff_toNat_le] at h
  change (0x41 ≤ c.toNat ∧ c.toNat ≤ 0x5a) ∨ (0x61 ≤ c.toNat ∧ c.toNat ≤ 0x7a) at h
  omega

theorem toLower_eq_self (h : ¬c.isAlpha = true) : c.toLower = c :=
  Char.toLower_eq_of_not_isUpper fun hup => h (by rw [Char.isAlpha, hup, Bool.true_or])

theorem lowerChar_of_hasAsciiCase (h : HasAsciiCase c) : lowerChar c = [c.toLower] := by
  by_cases hc : c.toNat < 0x80
  · rw [lowerChar, if_pos hc]
  · have hlow := h (Nat.le_of_not_lt hc)
    have hne : c ≠ 'Σ' := by
      rintro rfl
      revert hlow
      decide
    rw [toLower_eq_self fun h => hc (by have := toNat_of_isAlpha h; omega)]
    simpa [toLower, lowerFrom, hne] using hlow

/-- **Lowering goes character by character** where only ASCII letters have a lower case. -/
theorem toLower_eq_map (h : ∀ c ∈ cs, HasAsciiCase c) : toLower cs = cs.map Char.toLower := by
  suffices ∀ before, lowerFrom before cs = cs.map Char.toLower from this []
  induction cs with
  | nil => exact fun _ => rfl
  | cons c cs ih =>
    intro before
    have hne : c ≠ 'Σ' := by
      rintro rfl
      have := h 'Σ' List.mem_cons_self (by decide)
      revert this
      decide
    rw [lowerFrom, if_neg hne, lowerChar_of_hasAsciiCase (h c List.mem_cons_self),
      ih fun d hd => h d (List.mem_cons_of_mem _ hd)]
    rfl

theorem hasAsciiCase_toLower (h : HasAsciiCase c) : HasAsciiCase c.toLower := by
  by_cases hc : c.isAlpha = true
  · have := toNat_of_isAlpha (c := c.toLower) (by rw [Char.isAlpha_toLower_eq_isAlpha, hc])
    intro hle
    omega
  · rwa [toLower_eq_self hc]

/-- **Lowering is done once for all** where only ASCII letters have a lower case. -/
theorem toLower_toLower (h : ∀ c ∈ cs, HasAsciiCase c) : toLower (toLower cs) = toLower cs := by
  have hmap : ∀ c ∈ cs.map Char.toLower, HasAsciiCase c := by
    intro c hc
    obtain ⟨d, hd, rfl⟩ := List.mem_map.mp hc
    exact hasAsciiCase_toLower (h d hd)
  rw [toLower_eq_map h, toLower_eq_map hmap, List.map_map]
  exact List.map_congr_left fun c _ => Char.toLower_toLower_eq_toLower c

/-- A test that no letter of ASCII passes has the same answer on the lower case. -/
theorem test_toLower {f : Char → Bool} (hf : ∀ c, c.isAlpha = true → f c = false) (c : Char) :
    f c.toLower = f c := by
  by_cases h : c.isAlpha = true
  · rw [hf c h, hf c.toLower (by rw [Char.isAlpha_toLower_eq_isAlpha, h])]
  · rw [toLower_eq_self h]

/-- What is not a letter of ASCII is the lower case of itself only. -/
theorem toLower_eq_iff {d : Char} (hd : d.isAlpha = false) : c.toLower = d ↔ c = d := by
  by_cases hc : c.isAlpha = true
  · have hlow : c.toLower.isAlpha = true := by rw [Char.isAlpha_toLower_eq_isAlpha, hc]
    constructor <;> rintro rfl
    · exact absurd hlow (Bool.eq_false_iff.mp hd)
    · exact absurd hc (Bool.eq_false_iff.mp hd)
  · rw [toLower_eq_self hc]

theorem isBlank_of_isAlpha (h : c.isAlpha = true) : isBlank c = false := by
  have hc : 0x41 ≤ c.val.toNat ∧ c.val.toNat ≤ 0x7a := toNat_of_isAlpha h
  simp only [isBlank, Bool.or_eq_false_iff, Bool.and_eq_false_iff, decide_eq_false_iff_not,
    UInt32.le_iff_toNat_le, ← UInt32.toNat_inj]
  simp only [UInt32.reduceToNat]
  omega

theorem IsTrimmed.toLower (h : IsTrimmed cs) : IsTrimmed (cs.map Char.toLower) where
  head c hc := by
    rw [List.head?_map, Option.map_eq_some_iff] at hc
    obtain ⟨d, hd, rfl⟩ := hc
    rw [test_toLower fun _ => isBlank_of_isAlpha]
    exact h.head d hd
  last c hc := by
    rw [List.getLast?_map, Option.map_eq_some_iff] at hc
    obtain ⟨d, hd, rfl⟩ := hc
    rw [test_toLower fun _ => isBlank_of_isAlpha]
    exact h.last d hd

end LintHost.Text
