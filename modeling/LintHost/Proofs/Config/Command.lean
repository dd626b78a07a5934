import LintHost.Config.Command

/-!
# What becomes of a command

A command is in one of three states, and this file says which without the order in which
`LintHost.Command.parse` goes about it: it is *refused* if it does not split into words or a
shell operator is among them (`LintHost.Command.Refused`), and else it splits into plain words
(`LintHost.Command.Splits`), of which there may be none.
-/

namespace LintHost

namespace Command

/-- **A refused command**, with what is wrong with it. -/
inductive Refused (command : String) : CommandFault → Prop
  /-- A quote is not closed, or a backslash ends the text. -/
  | unbalanced (h : words? command.toList = none) : Refused command .unbalanced
  /-- One of the words is an operator of the shell. -/
  | shellOperator {words : List (List Char)} {word : List Char}
      (h : words? command.toList = some words) (hword : word ∈ words)
      (hoperator : String.ofList word ∈ controlOperators) : Refused command .shellOperator

/-- **A command of plain words**: it splits, and no word is an operator of the shell. -/
structure Splits (command : String) (words : List String) : Prop where
  split : (words? command.toList).map (·.map String.ofList) = some words
  plain : ∀ word ∈ words, word ∉ controlOperators

theorem parse_of_refused {command : String} {fault : CommandFault} (h : Refused command fault) :
    parse command = .error (.invalidCommand command fault) := by
  cases h with
  | unbalanced h => rw [parse, h]
  | shellOperator h hword hoperator =>
    rw [parse, h]
    refine if_pos (List.any_eq_true.mpr ⟨_, List.mem_map_of_mem hword, ?_⟩)
    exact List.contains_iff_mem.mpr hoperator

/-- A command of plain words is parsed into them, unless there is none. -/
theorem parse_of_splits {command : String} {words : List String} (h : Splits command words) :
    parse command = if words = [] then .error .emptyCommand else .ok words := by
  obtain ⟨hsplit, hplain⟩ := h
  obtain ⟨pieces, hpieces, rfl⟩ := Option.map_eq_some_iff.mp hsplit
  have hnone : ¬(pieces.map String.ofList).any controlOperators.contains = true := by
    intro hany
    obtain ⟨word, hword, hoperator⟩ := List.any_eq_true.mp hany
    exact hplain word hword (List.contains_iff_mem.mp hoperator)
  rw [parse, hpieces]
  exact if_neg hnone

/-- Every command is refused or splits into plain words. -/
theorem refused_or_splits (command : String) :
    (∃ fault, Refused command fault) ∨ ∃ words, Splits command words := by
  cases hwords : words? command.toList with
  | none => exact Or.inl ⟨_, .unbalanced hwords⟩
  | some pieces =>
    by_cases hoperator : ∃ piece ∈ pieces, String.ofList piece ∈ controlOperators
    · obtain ⟨piece, hpiece, hoperator⟩ := hoperator
      exact Or.inl ⟨_, .shellOperator hwords hpiece hoperator⟩
    · refine Or.inr ⟨pieces.map String.ofList, by rw [hwords]; rfl, ?_⟩
      rintro word hword hmem
      obtain ⟨piece, hpiece, rfl⟩ := List.mem_map.mp hword
      exact hoperator ⟨piece, hpiece, hmem⟩

/-- **The words of a command that is accepted**: those that it is split into, of which there is one
at least and none is an operator of a shell. -/
theorem parse_eq_ok_iff {command : String} {words : List String} :
    parse command = .ok words ↔ Splits command words ∧ words ≠ [] := by
  constructor
  · intro h
    rcases refused_or_splits command with ⟨fault, hrefused⟩ | ⟨words', hsplits⟩
    · rw [parse_of_refused hrefused] at h
      cases h
    · rw [parse_of_splits hsplits] at h
      split at h
      · cases h
      · next hne =>
        cases h
        exact ⟨hsplits, hne⟩
  · rintro ⟨hsplits, hne⟩
    rw [parse_of_splits hsplits, if_neg hne]

end Command

end LintHost
