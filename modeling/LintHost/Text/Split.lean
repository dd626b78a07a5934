/-!
# Cutting and joining texts

A text is handled as its list of characters. This file cuts such a list at every
occurrence of one separator, puts the pieces together again, and derives from that
the two readings of "the lines of a text" that the library needs:

* `Text.splitOn '\n'`, under which a text has one line more than it has line feeds;
* `Text.lines`, under which a line feed *ends* a line, so a text that ends with one
  has no further empty line, and a carriage return before a line feed belongs to the
  line's end.

`Text.join_splitOn` says that cutting loses nothing, `Text.not_mem_of_mem_splitOn`
that no piece holds the separator, and `Text.length_splitOn` counts the pieces.
-/

namespace LintHost.Text

/-! ### Cutting at a separator -/

/-- The pieces of a text between the occurrences of `sep`; there is always at least
one, possibly empty. -/
def splitOn (sep : Char) : List Char → List (List Char)
  | [] => [[]]
  | c :: cs =>
    if c = sep then [] :: splitOn sep cs
    else match splitOn sep cs with
      | [] => [[c]]
      | piece :: pieces => (c :: piece) :: pieces

/-- The pieces one after the other, with `sep` between neighbours. -/
def join (sep : Char) : List (List Char) → List Char
  | [] => []
  | [piece] => piece
  | piece :: pieces => piece ++ sep :: join sep pieces

theorem splitOn_ne_nil (sep : Char) (cs : List Char) : splitOn sep cs ≠ [] := by
  cases cs with
  | nil => simp [splitOn]
  | cons c cs =>
    simp only [splitOn]
    split
    · simp
    · split <;> simp

theorem splitOn_cons_of_ne {sep c : Char} (h : c ≠ sep) (cs : List Char) :
    ∃ piece pieces, splitOn sep cs = piece :: pieces ∧
      splitOn sep (c :: cs) = (c :: piece) :: pieces := by
  cases hs : splitOn sep cs with
  | nil => exact absurd hs (splitOn_ne_nil sep cs)
  | cons piece pieces => exact ⟨piece, pieces, rfl, by simp [splitOn, h, hs]⟩

theorem join_cons_cons (sep : Char) (piece next : List Char) (pieces : List (List Char)) :
    join sep (piece :: next :: pieces) = piece ++ sep :: join sep (next :: pieces) := rfl

/-- **Cutting loses nothing**: the pieces joined again give the text back. -/
theorem join_splitOn (sep : Char) (cs : List Char) : join sep (splitOn sep cs) = cs := by
  induction cs with
  | nil => rfl
  | cons c cs ih =>
    by_cases h : c = sep
    · subst h
      cases hs : splitOn c cs with
      | nil => exact absurd hs (splitOn_ne_nil c cs)
      | cons piece pieces =>
        rw [hs] at ih
        simp only [splitOn, ↓reduceIte, hs, join_cons_cons, ih, List.nil_append]
    · obtain ⟨piece, pieces, hs, hc⟩ := splitOn_cons_of_ne h cs
      rw [hc]
      rw [hs] at ih
      cases pieces with
      | nil => simpa [join] using ih
      | cons next pieces => simpa [join_cons_cons] using ih

/-- No piece holds the separator. -/
theorem not_mem_of_mem_splitOn {sep : Char} {cs piece : List Char}
    (h : piece ∈ splitOn sep cs) : sep ∉ piece := by
  induction cs generalizing piece with
  | nil => simp_all [splitOn]
  | cons c cs ih =>
    by_cases hc : c = sep
    · subst hc
      rcases (by simpa [splitOn] using h : piece = [] ∨ piece ∈ splitOn c cs) with rfl | h
      · simp
      · exact ih h
    · obtain ⟨first, pieces, hs, hcons⟩ := splitOn_cons_of_ne hc cs
      rw [hcons] at h
      rcases List.mem_cons.1 h with rfl | h
      · have : sep ∉ first := ih (by simp [hs])
        simp [this, Ne.symm hc]
      · exact ih (by simp [hs, h])

/-- There is one piece more than there are separators. -/
theorem length_splitOn (sep : Char) (cs : List Char) :
    (splitOn sep cs).length = cs.count sep + 1 := by
  induction cs with
  | nil => rfl
  | cons c cs ih =>
    by_cases h : c = sep
    · subst h
      simp [splitOn, ih]
    · obtain ⟨piece, pieces, hs, hc⟩ := splitOn_cons_of_ne h cs
      rw [hs] at ih
      rw [hc, List.count_cons_of_ne h]
      simpa using ih

/-! ### Trimming by a test -/

/-- Drops the longest run at the end whose members pass the test. -/
def dropTrailing {α : Type} (p : α → Bool) (xs : List α) : List α :=
  (xs.reverse.dropWhile p).reverse

/-- Drops one carriage return at the end, if there is one. -/
def dropReturn (line : List Char) : List Char :=
  if line.getLast? = some '\r' then line.dropLast else line

/-! ### Lines that end -/

/-- The lines among the pieces between line feeds: every piece but the last was ended
by a line feed and gives up the carriage return before it; the last one is a line only
if it is not empty, and it keeps its characters. -/
def endedLines : List (List Char) → List (List Char)
  | [] => []
  | [rest] => if rest = [] then [] else [rest]
  | line :: pieces => dropReturn line :: endedLines pieces

/-- The lines of a text in which a line feed, or a carriage return and a line feed,
ends a line. -/
def lines (cs : List Char) : List (List Char) :=
  endedLines (splitOn '\n' cs)

end LintHost.Text
