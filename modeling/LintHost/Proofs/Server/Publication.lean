import LintHost.Proofs.Lint.Placement
import LintHost.Proofs.Text.Utf16
import LintHost.Server.Publication

/-!
# An editor marks what the finding is about

A finding says in characters which part of a line it is about, and an editor is told so in UTF-16
code units. The editor cuts the units of the line and shows what it is left with; this file shows
that it is left with the characters that the finding named, neither more nor fewer nor half of one
(`LintHost.PublishedDiagnostic.Selects`).

It is true of every finding that lies inside its buffer, `LintHost.Diagnostic.Inside`, and so it
holds of all that is read from a report, whatever the checker printed
(`LintHost.PublishedDiagnostic.parseReport_selects`).
-/

namespace LintHost.PublishedDiagnostic

/-- **A range of code units that selects characters of a line**, from the `first` one up to but
not including the `last`. -/
structure Selects (range : Range) (line : Nat) (cs : List Char) (first last : Nat) : Prop where
  start_line : range.start.line = line
  stop_line : range.stop.line = line
  start_le_stop : range.start.character ≤ range.stop.character
  stop_le : range.stop.character ≤ (Text.units cs).length
  start_whole : ¬Text.SplitsPair (Text.units cs) range.start.character
  stop_whole : ¬Text.SplitsPair (Text.units cs) range.stop.character
  selected : Text.decode16 (((Text.units cs).drop range.start.character).take
    (range.stop.character - range.start.character)) = some ((cs.drop first).take (last - first))

variable {lines : SourceLines} {line : Nat} {cs : List Char}

/-- On a line that is there, a position has the column of its character. -/
theorem position_eq (hcs : lines.lineChars? line = some cs) (column : Nat) :
    position lines ⟨line, column⟩ = ⟨line, Text.utf16Column cs column⟩ := by
  simp only [position, hcs]

/-- Characters of one line have positions in their order, no two the same one. -/
theorem position_lt (hcs : lines.lineChars? line = some cs) {first last : Nat}
    (h : first < last) (hlast : last ≤ cs.length) :
    (position lines ⟨line, first⟩).character < (position lines ⟨line, last⟩).character := by
  rw [position_eq hcs, position_eq hcs]
  exact Text.utf16Column_lt h hlast

/-- **A range of characters that lie in a line is published as the units of these characters.** -/
theorem selects_position (hcs : lines.lineChars? line = some cs) {first last : Nat}
    (h : first ≤ last) :
    Selects ⟨position lines ⟨line, first⟩, position lines ⟨line, last⟩⟩ line cs first last := by
  rw [position_eq hcs, position_eq hcs]
  refine ⟨rfl, rfl, ?_, ?_, Text.not_splitsPair cs first, Text.not_splitsPair cs last, ?_⟩
  · rw [Text.utf16Column_eq_add cs h]
    exact Nat.le_add_right _ _
  · rw [Text.length_units]
    exact Text.utf16Column_le cs last
  · rw [Text.units_between cs h, Text.decode16_units]

/-- A finding inside its buffer is published as the units of the characters it is about. -/
theorem selects_of_inside {d : Diagnostic} (hcs : lines.lineChars? d.line = some cs)
    (h : d.Inside lines cs.length) :
    Selects (ofDiagnostic lines d).range d.line cs d.range.start.character
      d.range.stop.character := by
  have hstart : d.range.start = ⟨d.line, d.range.start.character⟩ := by rw [← h.start_line]
  have hstop : d.range.stop = ⟨d.line, d.range.stop.character⟩ := by rw [← h.stop_line]
  rw [ofDiagnostic, hstart, hstop]
  exact selects_position hcs h.start_le_stop

/-- **What an editor marks for a report is what the report is about.** Whatever the checker
printed about whatever file, each diagnostic is on a line of the buffer, its range of characters
lies in that line, and the range in UTF-16 code units selects these characters. Columns of the
line keep their order. Where the text is shorter than 2³¹ characters, the columns fit into 32
bits. -/
theorem parseReport_selects (output : String) (file directory : Path) (text : String)
    {d : Diagnostic} (h : d ∈ parseReport output file directory (.ofText text)) :
    ∃ cs, (SourceLines.ofText text).lineChars? d.line = some cs ∧
      (d.range.start.line = d.line ∧ d.range.stop.line = d.line ∧
        d.range.start.character ≤ d.range.stop.character ∧
        d.range.stop.character ≤ cs.length) ∧
      Selects (ofDiagnostic (.ofText text) d).range d.line cs d.range.start.character
        d.range.stop.character ∧
      (∀ first last, first < last → last ≤ cs.length →
        (position (.ofText text) ⟨d.line, first⟩).character <
          (position (.ofText text) ⟨d.line, last⟩).character) ∧
      (text.length < 2147483648 →
        (ofDiagnostic (.ofText text) d).range.stop.character < 4294967296) := by
  obtain ⟨entry, rfl⟩ := mem_parseReport h
  obtain ⟨length, hshort, hinside⟩ :=
    ReportParser.inside_diagnostic (ReportParser.make file directory) text entry
  obtain ⟨cs, hcs, rfl⟩ := Option.map_eq_some_iff.mp hinside.lineLength_eq
  have hselects := selects_of_inside hcs hinside
  refine ⟨cs, hcs, ⟨hinside.start_line, hinside.stop_line, hinside.start_le_stop,
    hinside.stop_le⟩, hselects, fun first last => position_lt hcs, fun hlength => ?_⟩
  -- A line has no more characters than the text, and no character has more than two units.
  have hstop := hselects.stop_le
  have hunits := Text.length16_le cs
  rw [Text.length_units] at hstop
  omega

/-- A name after a character outside the basic plane: its three characters are marked, and
nothing of the pair before them. -/
theorem parseReport_selects_after_pair :
    let text := "'😀', abc\n"
    let d : Diagnostic :=
      { severity := .error, file := ⟨"/w/a.py"⟩, line := 0, column := some 5,
        range := ⟨⟨0, 5⟩, ⟨0, 8⟩⟩, message := "bad name" }
    d ∈ parseReport "a.py:1:5: error: bad name\n" ⟨"/w/a.py"⟩ ⟨"/w"⟩ (.ofText text) ∧
      (ofDiagnostic (.ofText text) d).range = ⟨⟨0, 6⟩, ⟨0, 9⟩⟩ ∧
      ∃ cs, (SourceLines.ofText text).lineChars? d.line = some cs ∧
        Selects (ofDiagnostic (.ofText text) d).range d.line cs 5 8 := by
  intro text d
  have hmem : d ∈ parseReport "a.py:1:5: error: bad name\n" ⟨"/w/a.py"⟩ ⟨"/w"⟩ (.ofText text) := by
    decide +kernel
  obtain ⟨cs, hcs, -, hselects, -⟩ := parseReport_selects _ _ _ _ hmem
  exact ⟨hmem, by decide +kernel, cs, hcs, hselects⟩

end LintHost.PublishedDiagnostic
