import LintHost.SourceLines
import LintHost.Proofs.Text.Bytes

/-!
# The lines of a buffer are its pieces between line feeds

`LintHost.SourceLines` finds a line by two byte offsets that were recorded when the buffer was
read, while whoever looks at a line sees characters. The two meet in the list of pieces
between line feeds, `LintHost.Text.splitOn`: the recorded offsets are the places where the
pieces start (`LintHost.SourceLines.starts_ofText`), so that cutting the bytes between two of
them gives back a piece.

The main statement is `LintHost.SourceLines.lineChars?_ofText`: the characters of a line are
those of the piece with its number, less one carriage return at the end, and a line that is
not there has no piece. No offset ever falls inside a character.
-/

namespace LintHost.SourceLines

open Text (byteSize byteSize_nil byteSize_append byteSize_cons)

/-! ### Cutting at a character -/

theorem dropBytes_append (cs ds : List Char) : dropBytes (byteSize cs) (cs ++ ds) = some ds := by
  induction cs with
  | nil => cases ds <;> rfl
  | cons c cs ih =>
    have hpos : c.utf8Size ≠ 0 := Nat.pos_iff_ne_zero.mp c.utf8Size_pos
    rw [byteSize_cons, List.cons_append, dropBytes.eq_3 _ _ _ (by omega),
      if_pos (Nat.le_add_right _ _), Nat.add_sub_cancel_left, ih]

theorem takeBytes_append (cs ds : List Char) : takeBytes (byteSize cs) (cs ++ ds) = some cs := by
  induction cs with
  | nil => cases ds <;> rfl
  | cons c cs ih =>
    have hpos : c.utf8Size ≠ 0 := Nat.pos_iff_ne_zero.mp c.utf8Size_pos
    rw [byteSize_cons, List.cons_append, takeBytes.eq_3 _ _ _ (by omega),
      if_pos (Nat.le_add_right _ _), Nat.add_sub_cancel_left, ih, Option.map_some]

/-- **A part of a text is cut out by the sizes of what stands before it and of itself.** -/
theorem slice?_append (before piece after : List Char) :
    slice? (before ++ piece ++ after) (byteSize before) (byteSize before + byteSize piece) =
      some piece := by
  rw [slice?, List.append_assoc, dropBytes_append, Nat.add_sub_cancel_left]
  exact takeBytes_append piece after

/-! ### Where the pieces start -/

/-- The places where pieces start that follow each other with one byte between them. -/
def pieceStarts (offset : Nat) : List (List Char) → List Nat
  | [] => []
  | piece :: pieces => offset :: pieceStarts (offset + byteSize piece + 1) pieces

theorem length_pieceStarts (offset : Nat) (pieces : List (List Char)) :
    (pieceStarts offset pieces).length = pieces.length := by
  induction pieces generalizing offset with
  | nil => rfl
  | cons piece pieces ih => simp [pieceStarts, ih]

/-- **The recorded offsets are the places where the pieces start.** The induction is on the
text, along which a piece grows by one character at a time while its start stays. -/
theorem cons_startsAfter (offset : Nat) (cs : List Char) :
    offset :: startsAfter offset cs = pieceStarts offset (Text.splitOn '\n' cs) := by
  induction cs generalizing offset with
  | nil => rfl
  | cons c cs ih =>
    by_cases hc : c = '\n'
    · subst hc
      rw [startsAfter, if_pos rfl, ih, Text.splitOn, if_pos rfl, pieceStarts, byteSize_nil]
    · obtain ⟨piece, pieces, hs, hcons⟩ := Text.splitOn_cons_of_ne hc cs
      have htail := ih (offset + c.utf8Size)
      rw [hs, pieceStarts] at htail
      rw [startsAfter, if_neg hc, hcons, pieceStarts, byteSize_cons, ← Nat.add_assoc,
        (List.cons.inj htail).2]

theorem starts_ofText (text : String) :
    (ofText text).starts = pieceStarts 0 (Text.splitOn '\n' text.toList) :=
  cons_startsAfter 0 text.toList

/-- A buffer has as many lines as its text has pieces. -/
theorem count_ofText (text : String) :
    (ofText text).count = (Text.splitOn '\n' text.toList).length := by
  rw [count, starts_ofText, length_pieceStarts]

/-- **Where a piece stands**: it starts at the recorded place, and what follows it is the end
of the text or a line feed right before the next place. -/
theorem getElem?_pieceStarts {pieces : List (List Char)} {i : Nat} {piece : List Char}
    (h : pieces[i]? = some piece) (offset : Nat) :
    ∃ before after, Text.join '\n' pieces = before ++ piece ++ after ∧
      (pieceStarts offset pieces)[i]? = some (offset + byteSize before) ∧
      (after = [] ∧ (pieceStarts offset pieces)[i + 1]? = none ∨
        (pieceStarts offset pieces)[i + 1]? =
          some (offset + byteSize before + byteSize piece + 1)) := by
  induction pieces generalizing i offset with
  | nil => simp at h
  | cons first pieces ih =>
    cases i with
    | zero =>
      obtain rfl : first = piece := by simpa using h
      cases pieces with
      | nil => exact ⟨[], [], by simp [Text.join], rfl, Or.inl ⟨rfl, rfl⟩⟩
      | cons next pieces =>
        exact ⟨[], '\n' :: Text.join '\n' (next :: pieces), Text.join_cons_cons _ _ _ _, rfl,
          Or.inr rfl⟩
    | succ i =>
      rw [List.getElem?_cons_succ] at h
      cases pieces with
      | nil => simp at h
      | cons next pieces =>
        -- The first piece and its line feed come before whatever stands before the others.
        obtain ⟨before, after, hjoin, hstart, hstop⟩ := ih h (offset + byteSize first + 1)
        have hsize : offset + byteSize (first ++ '\n' :: before) =
            offset + byteSize first + 1 + byteSize before := by
          have hfeed : '\n'.utf8Size = 1 := rfl
          rw [byteSize_append, byteSize_cons, hfeed]
          omega
        refine ⟨first ++ '\n' :: before, after, ?_, ?_, ?_⟩
        · rw [Text.join_cons_cons, hjoin]
          simp
        · rw [hsize]
          exact hstart
        · rw [hsize]
          exact hstop

/-! ### Reading a line -/

/-- **Where a line stands**: its piece is between two parts of the text, the first of which ends at
the recorded start of the line and the second of which begins where the line ends. -/
theorem exists_extent {text : String} {line : Nat} {piece : List Char}
    (h : (Text.splitOn '\n' text.toList)[line]? = some piece) :
    ∃ before after, text.toList = before ++ piece ++ after ∧
      (ofText text).starts[line]? = some (byteSize before) ∧
      (ofText text).stop line = byteSize before + byteSize piece := by
  obtain ⟨before, after, hjoin, hstart, hstop⟩ := getElem?_pieceStarts h 0
  rw [Text.join_splitOn] at hjoin
  rw [← starts_ofText, Nat.zero_add] at hstart hstop
  refine ⟨before, after, hjoin, hstart, ?_⟩
  rw [stop]
  rcases hstop with ⟨rfl, hnone⟩ | hnext
  · have hsize : text.utf8ByteSize = byteSize (before ++ piece) := by
      rw [byteSize, ← List.append_nil (before ++ piece), ← hjoin, String.ofList_toList]
    rw [hnone]
    exact hsize.trans (byteSize_append before piece)
  · rw [hnext]
    rfl

/-- **The characters of a line** are those of the piece with its number, less one carriage
return at the end. A number that no piece has is the number of no line. -/
theorem lineChars?_ofText (text : String) (line : Nat) :
    (ofText text).lineChars? line =
      (Text.splitOn '\n' text.toList)[line]?.map Text.dropReturn := by
  cases h : (Text.splitOn '\n' text.toList)[line]? with
  | none =>
    have hstart : (ofText text).starts[line]? = none := by
      rw [starts_ofText, List.getElem?_eq_none_iff, length_pieceStarts]
      exact List.getElem?_eq_none_iff.mp h
    rw [lineChars?, hstart]
    rfl
  | some piece =>
    obtain ⟨before, after, htext, hstart, hend⟩ := exists_extent h
    have hslice : slice? text.toList (byteSize before) (byteSize before + byteSize piece) =
        some piece := by
      rw [htext]
      exact slice?_append before piece after
    rw [lineChars?, hstart, Option.bind_eq_bind, Option.bind_some, hend]
    exact congrArg (Option.map Text.dropReturn) hslice

/-! ### Lines that are there -/

theorem exists_piece {text : String} {line : Nat} (h : line < (ofText text).count) :
    ∃ piece, (Text.splitOn '\n' text.toList)[line]? = some piece := by
  rw [count_ofText] at h
  exact ⟨_, List.getElem?_eq_getElem h⟩

theorem lt_count_of_lineChars? {lines : SourceLines} {line : Nat} {cs : List Char}
    (h : lines.lineChars? line = some cs) : line < lines.count := by
  obtain ⟨start, hstart, -⟩ := Option.bind_eq_some_iff.mp h
  exact (List.getElem?_eq_some_iff.mp hstart).1

/-- Every line of a buffer has characters, of which there are no more than in its text. -/
theorem exists_lineChars?_ofText {text : String} {line : Nat} (h : line < (ofText text).count) :
    ∃ cs, (ofText text).lineChars? line = some cs ∧ cs.length ≤ text.length := by
  obtain ⟨piece, hpiece⟩ := exists_piece h
  obtain ⟨before, after, htext, -, -⟩ := exists_extent hpiece
  refine ⟨_, by rw [lineChars?_ofText, hpiece, Option.map_some], ?_⟩
  have hlength := congrArg List.length htext
  rw [List.length_append, List.length_append] at hlength
  have hreturn : ∀ cs : List Char, (Text.dropReturn cs).length ≤ cs.length := by
    intro cs
    rw [Text.dropReturn]
    split
    · simp
    · exact Nat.le_refl _
  calc (Text.dropReturn piece).length
      ≤ piece.length := hreturn piece
    _ ≤ text.toList.length := by omega
    _ = text.length := String.length_toList

theorem count_ofText_pos (text : String) : 0 < (ofText text).count := by
  rw [count_ofText]
  exact List.length_pos_iff.mpr (Text.splitOn_ne_nil '\n' text.toList)

/-- A buffer has at most one line more than its text has characters. -/
theorem count_ofText_le (text : String) : (ofText text).count ≤ text.length + 1 := by
  rw [count_ofText, Text.length_splitOn, ← String.length_toList]
  exact Nat.succ_le_succ List.count_le_length

end LintHost.SourceLines
