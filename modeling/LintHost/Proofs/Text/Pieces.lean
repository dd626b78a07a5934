import LintHost.Text.Split

/-!
# Pieces put together and cut again

`LintHost.Text.splitOn` cuts a text at a separator and `LintHost.Text.join` puts the pieces
together. Cutting what was joined gives the pieces back (`LintHost.Text.splitOn_join`), since it
distributes over every separator that is there (`LintHost.Text.splitOn_append_cons`). The same
holds of lines that are all ended by a line feed (`LintHost.Text.lines_ended`), as long as none
of them ends with the carriage return that a reader takes for a part of the line's end.
-/

namespace LintHost.Text

variable {sep : Char}

/-! ### Pieces -/

theorem splitOn_of_not_mem {cs : List Char} (h : sep ∉ cs) : splitOn sep cs = [cs] := by
  induction cs with
  | nil => rfl
  | cons c cs ih =>
    rw [List.mem_cons, not_or] at h
    rw [splitOn, if_neg (Ne.symm h.1), ih h.2]

/-- **Cutting distributes over a separator.** -/
theorem splitOn_append_cons (sep : Char) (cs ds : List Char) :
    splitOn sep (cs ++ sep :: ds) = splitOn sep cs ++ splitOn sep ds := by
  induction cs with
  | nil => simp [splitOn]
  | cons c cs ih =>
    by_cases hc : c = sep
    · subst hc
      simp [splitOn, ih]
    · obtain ⟨piece, pieces, hs, hcons⟩ := splitOn_cons_of_ne hc cs
      obtain ⟨piece', pieces', hs', hcons'⟩ := splitOn_cons_of_ne hc (cs ++ sep :: ds)
      rw [ih, hs, List.cons_append] at hs'
      obtain ⟨rfl, rfl⟩ := List.cons.inj hs'
      rw [List.cons_append, hcons', hcons, List.cons_append]

/-- A piece ends at the first separator. -/
theorem splitOn_append_cons_of_not_mem {cs : List Char} (h : sep ∉ cs) (ds : List Char) :
    splitOn sep (cs ++ sep :: ds) = cs :: splitOn sep ds := by
  rw [splitOn_append_cons, splitOn_of_not_mem h, List.singleton_append]

/-- **Pieces that were joined are cut again**, if there are any and none holds the separator. -/
theorem splitOn_join {pieces : List (List Char)} (hne : pieces ≠ [])
    (h : ∀ piece ∈ pieces, sep ∉ piece) : splitOn sep (join sep pieces) = pieces := by
  induction pieces with
  | nil => exact absurd rfl hne
  | cons piece pieces ih =>
    have hpiece := h piece List.mem_cons_self
    cases pieces with
    | nil => exact splitOn_of_not_mem hpiece
    | cons next pieces =>
      rw [join_cons_cons, splitOn_append_cons_of_not_mem hpiece,
        ih (List.cons_ne_nil _ _) fun p hp => h p (List.mem_cons_of_mem _ hp)]

/-- Two pieces that are joined beforehand. -/
theorem join_append_cons (sep : Char) (v l : List Char) (more : List (List Char)) :
    join sep ((v ++ sep :: l) :: more) = join sep (v :: l :: more) := by
  cases more with
  | nil => rfl
  | cons next more => simp [join_cons_cons]

/-- A piece is made of characters of the text. -/
theorem mem_of_mem_splitOn {cs piece : List Char} (h : piece ∈ splitOn sep cs) {c : Char}
    (hc : c ∈ piece) : c ∈ cs := by
  induction cs generalizing piece with
  | nil => simp_all [splitOn]
  | cons d cs ih =>
    by_cases hd : d = sep
    · subst hd
      rcases (by simpa [splitOn] using h : piece = [] ∨ piece ∈ splitOn d cs) with rfl | h
      · simp at hc
      · exact List.mem_cons_of_mem _ (ih h hc)
    · obtain ⟨first, pieces, hs, hcons⟩ := splitOn_cons_of_ne hd cs
      rw [hcons] at h
      rcases List.mem_cons.mp h with rfl | h
      · rcases List.mem_cons.mp hc with rfl | hc
        · exact List.mem_cons_self
        · exact List.mem_cons_of_mem _ (ih (by simp [hs]) hc)
      · exact List.mem_cons_of_mem _ (ih (by simp [hs, h]) hc)

/-! ### Lines -/

theorem endedLines_cons {line : List Char} {pieces : List (List Char)} (h : pieces ≠ []) :
    endedLines (line :: pieces) = dropReturn line :: endedLines pieces := by
  cases pieces with
  | nil => exact absurd rfl h
  | cons next pieces => rfl

/-- **Lines that are ended by line feeds** are read as they were written. -/
theorem lines_ended {ls : List (List Char)} (hfeed : ∀ l ∈ ls, '\n' ∉ l)
    (hreturn : ∀ l ∈ ls, l.getLast? ≠ some '\r') :
    lines (ls.flatMap fun l => l ++ ['\n']) = ls := by
  induction ls with
  | nil => rfl
  | cons l ls ih =>
    have hl := hfeed l List.mem_cons_self
    have hls := ih (fun l hl => hfeed l (List.mem_cons_of_mem _ hl))
      fun l hl => hreturn l (List.mem_cons_of_mem _ hl)
    rw [List.flatMap_cons, List.append_assoc, List.singleton_append, lines,
      splitOn_append_cons_of_not_mem hl, endedLines_cons (splitOn_ne_nil _ _), dropReturn,
      if_neg (hreturn l List.mem_cons_self), ← lines, hls]

theorem mem_of_mem_dropReturn {l : List Char} {c : Char} (h : c ∈ dropReturn l) : c ∈ l := by
  rw [dropReturn] at h
  split at h
  · exact List.dropLast_subset l h
  · exact h

theorem mem_endedLines {pieces : List (List Char)} {l : List Char} (h : l ∈ endedLines pieces) :
    ∃ piece ∈ pieces, ∀ c ∈ l, c ∈ piece := by
  induction pieces with
  | nil => simp [endedLines] at h
  | cons piece pieces ih =>
    cases pieces with
    | nil =>
      rw [endedLines] at h
      split at h
      · simp at h
      · rw [List.mem_singleton.mp h]
        exact ⟨piece, List.mem_cons_self, fun c hc => hc⟩
    | cons next pieces =>
      rw [endedLines_cons (List.cons_ne_nil _ _)] at h
      rcases List.mem_cons.mp h with rfl | h
      · exact ⟨piece, List.mem_cons_self, fun c hc => mem_of_mem_dropReturn hc⟩
      · obtain ⟨p, hp, hmem⟩ := ih h
        exact ⟨p, List.mem_cons_of_mem _ hp, hmem⟩

/-- A line is made of characters of the text and holds no line feed. -/
theorem mem_of_mem_lines {cs l : List Char} (h : l ∈ lines cs) :
    '\n' ∉ l ∧ ∀ c ∈ l, c ∈ cs := by
  obtain ⟨piece, hpiece, hmem⟩ := mem_endedLines h
  exact ⟨fun hc => not_mem_of_mem_splitOn hpiece (hmem _ hc),
    fun c hc => mem_of_mem_splitOn hpiece (hmem c hc)⟩

end LintHost.Text
