import LintHost.Text.Utf8
import LintHost.Proofs.Buffer.Lines
import LintHost.Proofs.Text.Lines

/-!
# A buffer is its text cut at the line feeds

`LintHost.SourceLines.ofText` goes through a text once and keeps byte offsets, and everything that is
asked of a buffer later is cut out between two of these. This file says what comes of it, in two
parts that do not mention how the offsets are found:

* `LintHost.SourceLines.ShowsPieces`: the lines are the pieces of the text between its line feeds, in
  order and none left out, each less one carriage return at its end;
* `LintHost.SourceLines.MarksStarts`: the offsets are the places right after the bytes of the line
  feeds in the UTF-8 form of the text, none of them falls inside a character, and the bytes between a
  start and the end of its line are a piece.

Both hold of every text (`LintHost.SourceLines.ofText_cuts_at_feeds`). That the byte of a line feed
always stands for one is a property of UTF-8: the bytes of a character outside ASCII are all above
those of ASCII (`LintHost.SourceLines.feed_mem_utf8EncodeChar_iff`).
-/

namespace LintHost.SourceLines

open Text (byteSize byteSize_append byteSize_cons)

/-! ### Line feeds among the bytes -/

/-- **The byte of a line feed** occurs in the form of no other character. -/
theorem feed_mem_utf8EncodeChar_iff {c : Char} : 10 ∈ String.utf8EncodeChar c ↔ c = '\n' := by
  have hbyte : ∀ n : Nat, (10 = UInt8.ofNat n ↔ n % 256 = 10) := by
    intro n
    rw [← UInt8.toNat_inj, UInt8.toNat_ofNat']
    exact eq_comm
  constructor
  · intro h
    simp only [String.utf8EncodeChar] at h
    split at h
    · rw [List.mem_singleton, hbyte] at h
      have hval : c.val.toNat = 10 := by omega
      exact Char.ext (UInt32.toNat_inj.mp hval)
    · -- All the bytes of a longer form are 0x80 or above.
      exfalso
      split at h
      · simp only [List.mem_cons, hbyte, List.not_mem_nil, or_false] at h
        omega
      · split at h <;> simp only [List.mem_cons, hbyte, List.not_mem_nil, or_false] at h <;> omega
  · rintro rfl
    decide

theorem exists_getElem?_append {α : Type} {front back : List α} {b : α} {p : Nat → Prop} :
    (∃ k, (front ++ back)[k]? = some b ∧ p k) ↔
      (∃ k, front[k]? = some b ∧ p k) ∨ ∃ k, back[k]? = some b ∧ p (front.length + k) := by
  constructor
  · rintro ⟨k, hk, hp⟩
    rcases Nat.lt_or_ge k front.length with hlt | hle
    · exact Or.inl ⟨k, by rwa [List.getElem?_append_left hlt] at hk, hp⟩
    · rw [List.getElem?_append_right hle] at hk
      exact Or.inr ⟨k - front.length, hk, by rwa [Nat.add_sub_cancel' hle]⟩
  · rintro (⟨k, hk, hp⟩ | ⟨k, hk, hp⟩)
    · have hlt := (List.getElem?_eq_some_iff.mp hk).1
      exact ⟨k, by rwa [List.getElem?_append_left hlt], hp⟩
    · refine ⟨front.length + k, ?_, hp⟩
      rwa [List.getElem?_append_right (Nat.le_add_right _ _), Nat.add_sub_cancel_left]

/-- **The recorded offsets among the bytes**: a line starts right after each byte of a line feed. The
induction is on the characters, each of which brings the bytes of its form. -/
theorem mem_startsAfter_iff {offset n : Nat} {cs : List Char} :
    n ∈ startsAfter offset cs ↔ ∃ k, (Text.encode8 cs)[k]? = some 10 ∧ n = offset + k + 1 := by
  induction cs generalizing offset with
  | nil => simp [startsAfter, Text.encode8]
  | cons c cs ih =>
    have hbytes : Text.encode8 (c :: cs) = String.utf8EncodeChar c ++ Text.encode8 cs :=
      List.flatMap_cons
    rw [hbytes, exists_getElem?_append, String.length_utf8EncodeChar, startsAfter]
    by_cases hc : c = '\n'
    · subst hc
      have hfeed : String.utf8EncodeChar '\n' = [10] := by decide
      have hsize : '\n'.utf8Size = 1 := rfl
      rw [if_pos rfl, List.mem_cons, ih, hfeed, hsize]
      refine or_congr ⟨?_, ?_⟩ (exists_congr fun k => and_congr_right fun _ => by omega)
      · rintro rfl
        exact ⟨0, rfl, rfl⟩
      · rintro ⟨k, hk, rfl⟩
        have hlt := (List.getElem?_eq_some_iff.mp hk).1
        rw [List.length_singleton] at hlt
        omega
    · have hnone : ¬∃ k, (String.utf8EncodeChar c)[k]? = some 10 ∧ n = offset + k + 1 := by
        rintro ⟨k, hk, -⟩
        exact hc (feed_mem_utf8EncodeChar_iff.mp (List.mem_of_getElem? hk))
      rw [if_neg hc, ih, or_iff_right hnone]
      exact exists_congr fun k => and_congr_right fun _ => by omega

/-! ### The order of the offsets -/

theorem le_of_mem_pieceStarts {pieces : List (List Char)} {offset start : Nat}
    (h : start ∈ pieceStarts offset pieces) : offset ≤ start := by
  induction pieces generalizing offset with
  | nil => simp [pieceStarts] at h
  | cons piece pieces ih =>
    rw [pieceStarts, List.mem_cons] at h
    rcases h with rfl | h
    · exact Nat.le_refl _
    · have := ih h
      omega

/-- Every piece starts after the one before it, and be that one empty. -/
theorem pairwise_pieceStarts (offset : Nat) (pieces : List (List Char)) :
    (pieceStarts offset pieces).Pairwise (· < ·) := by
  induction pieces generalizing offset with
  | nil => exact List.Pairwise.nil
  | cons piece pieces ih =>
    refine List.Pairwise.cons ?_ (ih _)
    intro start hstart
    have := le_of_mem_pieceStarts hstart
    omega

/-! ### Places between characters -/

/-- What stands before a part of a text ends between two characters. -/
theorem isValid_byteSize {text : String} {before after : List Char}
    (h : text.toList = before ++ after) :
    (⟨byteSize before⟩ : String.Pos.Raw).IsValid text := by
  refine String.Pos.Raw.isValid_iff_exists_append.mpr
    ⟨String.ofList before, String.ofList after, ?_, rfl⟩
  rw [← String.ofList_append, ← h, String.ofList_toList]

/-! ### What a buffer is -/

/-- **A buffer shows the pieces of its text** between the line feeds. -/
structure ShowsPieces (s : SourceLines) (text : String) (pieces : List (List Char)) : Prop where
  /-- The pieces are those of the text. -/
  joined : Text.join '\n' pieces = text.toList
  feedless : ∀ piece ∈ pieces, '\n' ∉ piece
  /-- There are as many lines as pieces, one more than line feeds. -/
  count_eq : s.count = pieces.length ∧ s.count = 1 + text.toList.count '\n'
  /-- A line is the piece with its number, less one carriage return if the piece ends with one. -/
  line_eq : ∀ i < s.count, ∃ piece line, pieces[i]? = some piece ∧
    s.line? i = some (String.ofList line) ∧ s.lineLength? i = some line.length ∧
    (piece = line ++ ['\r'] ∨ piece = line ∧ piece.getLast? ≠ some '\r')
  /-- There is no other line. -/
  beyond : ∀ i, s.count ≤ i → s.line? i = none ∧ s.lineLength? i = none
  /-- No line holds a line feed. -/
  line_feedless : ∀ i line, s.line? i = some line → '\n' ∉ line.toList

/-- **A buffer marks the starts of its lines** by byte offsets. -/
structure MarksStarts (s : SourceLines) (text : String) (pieces : List (List Char)) : Prop where
  first : s.starts[0]? = some 0
  increasing : s.starts.Pairwise (· < ·)
  /-- A line starts right after each line feed among the bytes, and the first one at the start. -/
  mem_iff : ∀ n, n ∈ s.starts ↔
    n = 0 ∨ ∃ k, (Text.encode8 text.toList)[k]? = some 10 ∧ n = k + 1
  /-- No line starts inside a character. -/
  valid : ∀ start ∈ s.starts, (⟨start⟩ : String.Pos.Raw).IsValid text
  /-- A line ends between two characters as well, not before its start, and the text between the two
  is its piece. -/
  slice_eq : ∀ i < s.count, ∃ start, s.starts[i]? = some start ∧ start ≤ s.stop i ∧
    (⟨s.stop i⟩ : String.Pos.Raw).IsValid text ∧
    ∃ piece, pieces[i]? = some piece ∧ slice? text.toList start (s.stop i) = some piece

theorem showsPieces (text : String) :
    ShowsPieces (ofText text) text (Text.splitOn '\n' text.toList) where
  joined := Text.join_splitOn '\n' text.toList
  feedless _ := Text.not_mem_of_mem_splitOn
  count_eq := by
    refine ⟨count_ofText text, ?_⟩
    rw [count_ofText, Text.length_splitOn, Nat.add_comm]
  line_eq i hi := by
    obtain ⟨piece, hpiece⟩ := exists_piece hi
    have hchars : (ofText text).lineChars? i = some (Text.dropReturn piece) := by
      rw [lineChars?_ofText, hpiece, Option.map_some]
    refine ⟨piece, Text.dropReturn piece, hpiece, ?_, ?_, ?_⟩
    · rw [line?, hchars, Option.map_some]
    · rw [lineLength?, hchars, Option.map_some]
    · rcases Text.dropReturn_cases piece with ⟨hlast, hsame⟩ | hreturn
      · exact Or.inr ⟨hsame.symm, hlast⟩
      · exact Or.inl hreturn
  beyond i hi := by
    have hchars : (ofText text).lineChars? i = none := by
      rw [count_ofText] at hi
      rw [lineChars?_ofText, List.getElem?_eq_none hi, Option.map_none]
    rw [line?, lineLength?, hchars]
    exact ⟨rfl, rfl⟩
  line_feedless i line hline := by
    rw [line?, lineChars?_ofText, Option.map_map] at hline
    obtain ⟨piece, hpiece, rfl⟩ := Option.map_eq_some_iff.mp hline
    intro hfeed
    rw [Function.comp, String.toList_ofList] at hfeed
    exact Text.not_mem_of_mem_splitOn (List.mem_of_getElem? hpiece) (Text.mem_of_mem_dropReturn hfeed)

theorem marksStarts (text : String) :
    MarksStarts (ofText text) text (Text.splitOn '\n' text.toList) where
  first := rfl
  increasing := by
    rw [starts_ofText]
    exact pairwise_pieceStarts 0 _
  mem_iff n := by
    rw [ofText, List.mem_cons, mem_startsAfter_iff]
    simp only [Nat.zero_add]
  valid start hstart := by
    obtain ⟨i, hi, rfl⟩ := List.mem_iff_getElem.mp hstart
    obtain ⟨piece, hpiece⟩ := exists_piece hi
    obtain ⟨before, after, htext, hbefore, -⟩ := exists_extent hpiece
    rw [List.append_assoc] at htext
    rw [(List.getElem_eq_iff hi).mpr hbefore]
    exact isValid_byteSize htext
  slice_eq i hi := by
    obtain ⟨piece, hpiece⟩ := exists_piece hi
    obtain ⟨before, after, htext, hstart, hstop⟩ := exists_extent hpiece
    refine ⟨byteSize before, hstart, ?_, ?_, piece, hpiece, ?_⟩
    · rw [hstop]
      exact Nat.le_add_right _ _
    · rw [hstop, ← byteSize_append]
      exact isValid_byteSize htext
    · rw [hstop, htext]
      exact slice?_append before piece after

/-- A character of two bytes, an empty line, a carriage return inside a line and one at its end. -/
example :
    let s := ofText "é\n\na\rb\r\r\n"
    s.starts = [0, 3, 4, 10] ∧ (List.range 5).map s.line? =
      [some "é", some "", some "a\rb\r", some "", none] := by
  decide +kernel

end LintHost.SourceLines
