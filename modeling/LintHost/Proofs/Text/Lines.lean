import LintHost.Proofs.Text.Pieces

/-!
# A text line by line

`LintHost.Text.lines` cuts a text at all of its line feeds at once, while whoever reads a report or
a configuration file thinks of one line after the other. This file gives the lines of a text that
starts with an ended line (`LintHost.Text.lines_feed`) and an induction that follows it
(`LintHost.Text.lineInduction`). Three facts that do not mention the cutting come from them:

* the lines of two texts one after the other are those of the first and then those of the second, if
  the first ends where a line ends (`LintHost.Text.lines_append`);
* which lines a text has can be told by how it is written, as lines with a line feed, or a carriage
  return and a line feed, after each of them (`LintHost.Text.HasLines`);
* a text has the same lines with either of the two ends, if none of its own lines ends with a
  carriage return (`LintHost.Text.lines_withReturns`).
-/

namespace LintHost.Text

variable {cs line : List Char}

/-! ### One line after the other -/

theorem lines_feed (h : '\n' ∉ line) (rest : List Char) :
    lines (line ++ '\n' :: rest) = dropReturn line :: lines rest := by
  rw [lines, splitOn_append_cons_of_not_mem h, endedLines_cons (splitOn_ne_nil _ _), ← lines]

/-- A text without a line feed is one line, or none if it is empty. -/
theorem lines_of_not_mem (h : '\n' ∉ line) : lines line = if line = [] then [] else [line] := by
  rw [lines, splitOn_of_not_mem h, endedLines]

/-- **Induction along the lines of a text**: either it has no line feed, or it goes on after its
first line. -/
@[elab_as_elim]
theorem lineInduction {motive : List Char → Prop} (last : ∀ line, '\n' ∉ line → motive line)
    (feed : ∀ line rest, '\n' ∉ line → motive rest → motive (line ++ '\n' :: rest))
    (cs : List Char) : motive cs := by
  suffices hjoin : ∀ pieces : List (List Char), (∀ piece ∈ pieces, '\n' ∉ piece) →
      motive (join '\n' pieces) by
    rw [← join_splitOn '\n' cs]
    exact hjoin _ fun piece => not_mem_of_mem_splitOn
  intro pieces
  induction pieces with
  | nil => exact fun _ => last [] List.not_mem_nil
  | cons piece pieces ih =>
    intro hpieces
    have hpiece := hpieces piece List.mem_cons_self
    cases pieces with
    | nil => exact last piece hpiece
    | cons next pieces =>
      exact feed piece _ hpiece (ih fun p hp => hpieces p (List.mem_cons_of_mem _ hp))

/-! ### Texts of whole lines -/

/-- A text of whole lines: it is empty, or it ends with a line feed. -/
def IsWhole (cs : List Char) : Prop :=
  cs = [] ∨ cs.getLast? = some '\n'

theorem IsWhole.eq_nil (h : IsWhole cs) (hfeed : '\n' ∉ cs) : cs = [] :=
  h.resolve_right fun hlast => hfeed (List.mem_of_getLast? hlast)

/-- What follows the first line of whole lines are whole lines. -/
theorem IsWhole.tail {rest : List Char} (h : IsWhole (line ++ '\n' :: rest)) : IsWhole rest := by
  have hlast := h.resolve_left (by simp)
  cases hrest : rest.getLast? with
  | none => exact Or.inl (List.getLast?_eq_none_iff.mp hrest)
  | some c =>
    rw [List.getLast?_append, List.getLast?_cons, hrest, Option.some_or, Option.getD_some] at hlast
    exact Or.inr (hrest.trans hlast)

/-- Whole lines stay so, whatever other lines stand before them. -/
theorem IsWhole.append {ds : List Char} (h : IsWhole cs) (hds : IsWhole ds) : IsWhole (cs ++ ds) := by
  obtain rfl | hlast := hds
  · rwa [List.append_nil]
  · exact Or.inr (by rw [List.getLast?_append, hlast, Option.some_or])

/-- **Lines of two texts**, the first of which ends where a line ends. -/
theorem lines_append (h : IsWhole cs) (ds : List Char) : lines (cs ++ ds) = lines cs ++ lines ds := by
  induction cs using lineInduction with
  | last line hline =>
    rw [h.eq_nil hline]
    rfl
  | feed line rest hline ih =>
    rw [List.append_assoc, List.cons_append, lines_feed hline, lines_feed hline, ih h.tail,
      List.cons_append]

/-- Every text is whole lines and then the beginning of a line, which may be empty. -/
theorem exists_whole_append (cs : List Char) :
    ∃ front line, cs = front ++ line ∧ IsWhole front ∧ '\n' ∉ line := by
  induction cs using lineInduction with
  | last line hline => exact ⟨[], line, rfl, Or.inl rfl, hline⟩
  | feed first rest hfirst ih =>
    obtain ⟨front, line, rfl, hfront, hline⟩ := ih
    refine ⟨first ++ '\n' :: front, line, by simp, Or.inr ?_, hline⟩
    obtain rfl | hlast := hfront
    · simp
    · simp [List.getLast?_append, List.getLast?_cons, hlast]

/-! ### How lines are written -/

theorem dropReturn_concat (line : List Char) : dropReturn (line ++ ['\r']) = line := by
  rw [dropReturn, if_pos (List.getLast?_concat ..), List.dropLast_concat]

theorem dropReturn_eq_self (h : line.getLast? ≠ some '\r') : dropReturn line = line :=
  if_neg h

/-- A line ends with a carriage return or loses nothing with it. -/
theorem dropReturn_cases (line : List Char) :
    line.getLast? ≠ some '\r' ∧ dropReturn line = line ∨ line = dropReturn line ++ ['\r'] := by
  by_cases h : line.getLast? = some '\r'
  · obtain ⟨front, rfl⟩ := List.getLast?_eq_some_iff.mp h
    exact Or.inr (by rw [dropReturn_concat])
  · exact Or.inl ⟨h, dropReturn_eq_self h⟩

/-- **How a text is written as lines**: each is ended by a line feed or by a carriage return and a
line feed, and the last one may go without, if it is not empty. Any other carriage return belongs to
its line. -/
inductive HasLines : List Char → List (List Char) → Prop
  /-- An empty text has no lines. -/
  | nil : HasLines [] []
  /-- The last line has no end. -/
  | last {line : List Char} (hne : line ≠ []) (hfeed : '\n' ∉ line) : HasLines line [line]
  /-- A line feed ends the line. -/
  | feed {line rest : List Char} {ls : List (List Char)} (hfeed : '\n' ∉ line)
      (hreturn : line.getLast? ≠ some '\r') (h : HasLines rest ls) :
      HasLines (line ++ '\n' :: rest) (line :: ls)
  /-- A carriage return and a line feed end the line. -/
  | returnFeed {line rest : List Char} {ls : List (List Char)} (hfeed : '\n' ∉ line)
      (h : HasLines rest ls) : HasLines (line ++ '\r' :: '\n' :: rest) (line :: ls)

theorem not_mem_concat_return (h : '\n' ∉ line) : '\n' ∉ line ++ ['\r'] := by
  simpa using h

/-- A line that a carriage return and a line feed end. -/
theorem lines_returnFeed (h : '\n' ∉ line) (rest : List Char) :
    lines (line ++ '\r' :: '\n' :: rest) = line :: lines rest := by
  have hcut := lines_feed (not_mem_concat_return h) rest
  rwa [dropReturn_concat, List.append_assoc, List.singleton_append] at hcut

theorem hasLines_lines (cs : List Char) : HasLines cs (lines cs) := by
  induction cs using lineInduction with
  | last line hline =>
    rw [lines_of_not_mem hline]
    split
    · next hnil => exact hnil ▸ .nil
    · next hne => exact .last hne hline
  | feed line rest hline ih =>
    obtain ⟨hreturn, -⟩ | hreturn := dropReturn_cases line
    · rw [lines_feed hline, dropReturn_eq_self hreturn]
      exact .feed hline hreturn ih
    · generalize dropReturn line = front at hreturn
      subst hreturn
      have hfront : '\n' ∉ front := fun h => hline (List.mem_append_left _ h)
      rw [List.append_assoc, List.singleton_append, lines_returnFeed hfront]
      exact .returnFeed hfront ih

/-- **The lines of a text** are those that it is written as. -/
theorem hasLines_iff {ls : List (List Char)} : HasLines cs ls ↔ lines cs = ls := by
  constructor
  · intro h
    induction h with
    | nil => rfl
    | last hne hfeed => rw [lines_of_not_mem hfeed, if_neg hne]
    | feed hfeed hreturn _ ih => rw [lines_feed hfeed, dropReturn_eq_self hreturn, ih]
    | returnFeed hfeed _ ih => rw [lines_returnFeed hfeed, ih]
  · rintro rfl
    exact hasLines_lines cs

/-- A line feed ends a last line that has no end, and it does nothing else to the lines if that one
does not end with a carriage return. -/
theorem lines_concat_feed (h : ¬IsWhole cs) (hreturn : cs.getLast? ≠ some '\r') :
    lines (cs ++ ['\n']) = lines cs := by
  obtain ⟨front, line, rfl, hfront, hline⟩ := exists_whole_append cs
  have hne : line ≠ [] := fun hnil => h (by rwa [hnil, List.append_nil])
  have hlast : line.getLast? ≠ some '\r' := fun hlast =>
    hreturn (by rw [List.getLast?_append, hlast, Option.some_or])
  rw [List.append_assoc, lines_append hfront, lines_append hfront, lines_feed hline,
    dropReturn_eq_self hlast, lines_of_not_mem hline, if_neg hne]
  rfl

/-! ### The two ends of a line -/

/-- The text with a carriage return before every line feed. -/
def withReturns (cs : List Char) : List Char :=
  cs.flatMap fun c => if c = '\n' then ['\r', '\n'] else [c]

theorem withReturns_of_not_mem (h : '\n' ∉ line) : withReturns line = line := by
  induction line with
  | nil => rfl
  | cons c line ih =>
    rw [List.mem_cons, not_or] at h
    have hrest := ih h.2
    rw [withReturns] at hrest ⊢
    rw [List.flatMap_cons, if_neg (Ne.symm h.1), hrest, List.singleton_append]

theorem withReturns_feed (h : '\n' ∉ line) (rest : List Char) :
    withReturns (line ++ '\n' :: rest) = line ++ '\r' :: '\n' :: withReturns rest := by
  have hline := withReturns_of_not_mem h
  rw [withReturns] at hline ⊢
  rw [List.flatMap_append, hline, List.flatMap_cons, if_pos rfl]
  rfl

/-- **The two ends are the same to a reader** of a text that uses the first of them only. -/
theorem lines_withReturns (h : ¬['\r', '\n'] <:+: cs) : lines (withReturns cs) = lines cs := by
  induction cs using lineInduction with
  | last line hline => rw [withReturns_of_not_mem hline]
  | feed line rest hline ih =>
    have hreturn : line.getLast? ≠ some '\r' := by
      intro hlast
      obtain ⟨front, rfl⟩ := List.getLast?_eq_some_iff.mp hlast
      exact h ⟨front, rest, by simp⟩
    have hrest : ¬['\r', '\n'] <:+: rest := fun hpair =>
      h (hpair.trans ((List.suffix_cons _ _).trans (List.suffix_append _ _)).isInfix)
    rw [withReturns_feed hline, lines_returnFeed hline, ih hrest, lines_feed hline,
      dropReturn_eq_self hreturn]

end LintHost.Text
