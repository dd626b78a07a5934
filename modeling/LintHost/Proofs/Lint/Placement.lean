import LintHost.Proofs.Buffer.Highlight
import LintHost.Proofs.Buffer.Lines
import LintHost.Proofs.Lint.Check

/-!
# Findings lie inside the buffer

A checker may print any line and any column, also ones that the buffer does not have, and an
editor that is given such a position fails. This file shows that no lint hands one out:
whatever the checker printed, a finding that is reported lies inside the buffer it was made
for, as `LintHost.Diagnostic.Inside` puts it.

The bound is carried from the highlight outwards. A word ends inside its line
(`LintHost.firstWordEnd_le_length`), so a finding placed at a column of its line is inside
(`LintHost.Diagnostic.inside_located`); both an entry of a report, whose line and column are
pulled into the buffer first, and the notice of a failure are placed that way. A lint reports
nothing else (`LintHost.Workspace.lint_findings_inside`).
-/

namespace LintHost

/-- **A finding inside a buffer**, on a line of the given length in characters. -/
structure Diagnostic.Inside (d : Diagnostic) (lines : SourceLines) (length : Nat) : Prop where
  line_lt : d.line < lines.count
  lineLength_eq : lines.lineLength? d.line = some length
  start_line : d.range.start.line = d.line
  stop_line : d.range.stop.line = d.line
  column_le : ∀ column, d.column = some column →
    column ≤ length ∧ d.range.start.character = column
  whole_line : d.column = none → d.range.start.character = 0 ∧ d.range.stop.character = length
  start_le_stop : d.range.start.character ≤ d.range.stop.character
  stop_le : d.range.stop.character ≤ length

/-! ### Placing a finding -/

namespace Diagnostic

/-- **A finding placed at a column of its line is inside the buffer**, and so is one that is
placed at a line without a column. -/
theorem inside_located (d : Diagnostic) {lines : SourceLines} {line : Nat} {cs : List Char}
    (hcs : lines.lineChars? line = some cs) {column : Option Nat}
    (hcolumn : ∀ c, column = some c → c ≤ cs.length) :
    (d.located line column lines).Inside lines cs.length := by
  have hline : lines.lineLength? line = some cs.length := by
    rw [SourceLines.lineLength?, hcs, Option.map_some]
  have hlt := SourceLines.lt_count_of_lineChars? hcs
  have hrange : (d.located line column lines).range = highlight lines line column := rfl
  -- Without a column the range ends with the line, with one it ends with a word of the rest.
  cases column with
  | none =>
    rw [highlight, hcs] at hrange
    exact ⟨hlt, hline, by rw [hrange]; rfl, by rw [hrange]; rfl, nofun,
      fun _ => by rw [hrange]; exact ⟨rfl, rfl⟩, by rw [hrange]; exact Nat.zero_le _,
      by rw [hrange]; exact Nat.le_refl _⟩
  | some column =>
    have hle := hcolumn column rfl
    rw [highlight, hcs, Option.getD_some] at hrange
    simp only [Nat.min_eq_left hle] at hrange
    have hword := firstWordEnd_le_length (cs.drop column)
    rw [List.length_drop] at hword
    refine ⟨hlt, hline, by rw [hrange]; rfl, by rw [hrange]; rfl, ?_, nofun, ?_, ?_⟩
    · rintro c hc
      obtain rfl : column = c := Option.some.inj hc
      exact ⟨hle, by rw [hrange]⟩
    · rw [hrange]
      exact Nat.le_add_right _ _
    · rw [hrange]
      simp only
      omega

/-- The notice of a failure is inside every buffer, on its first line. -/
theorem inside_toolFailure (file : Path) (message details text : String) :
    ∃ length ≤ text.length,
      (toolFailure file message details (.ofText text)).Inside (.ofText text) length := by
  obtain ⟨cs, hcs, hle⟩ := SourceLines.exists_lineChars?_ofText (SourceLines.count_ofText_pos text)
  have hnone : ∀ c, (none : Option Nat) = some c → c ≤ cs.length := nofun
  obtain ⟨h1, h2, h3, h4, h5, h6, h7, h8⟩ :=
    inside_located { severity := .error, file, message } hcs hnone
  exact ⟨cs.length, hle, h1, h2, h3, h4, h5, h6, h7, h8⟩

end Diagnostic

namespace ReportParser

/-- **An entry of a report becomes a finding inside the buffer**, whatever its numbers. -/
theorem inside_diagnostic (parser : ReportParser) (text : String) (entry : ReportEntry) :
    ∃ length ≤ text.length,
      (parser.diagnostic (.ofText text) entry).Inside (.ofText text) length := by
  have hpos := SourceLines.count_ofText_pos text
  have hline : min entry.line ((SourceLines.ofText text).count - 1) <
      (SourceLines.ofText text).count := by omega
  obtain ⟨cs, hcs, hle⟩ := SourceLines.exists_lineChars?_ofText hline
  refine ⟨cs.length, hle, Diagnostic.inside_located _ hcs ?_⟩
  intro c hc
  obtain ⟨column, -, rfl⟩ := Option.map_eq_some_iff.mp hc
  rw [SourceLines.lineLength?, hcs, Option.map_some, Option.getD_some, clampColumn]
  exact Nat.min_le_right _ _

end ReportParser

theorem mem_parseReport {output : String} {file directory : Path} {lines : SourceLines}
    {d : Diagnostic} (h : d ∈ parseReport output file directory lines) :
    ∃ entry, d = (ReportParser.make file directory).diagnostic lines entry := by
  obtain ⟨line, -, hd⟩ := List.mem_filterMap.mp h
  split at hd
  · next entry _ => exact ⟨entry, (Option.some.inj hd).symm⟩
  · simp at hd

/-! ### What a lint reports -/

/-- **What the findings of a check can be**: an error, the notice of one failure, or the
findings of a report. -/
inductive Findings (file : Path) (lines : SourceLines) : Except LintError (List Diagnostic) → Prop
  /-- The check has failed with an error. -/
  | error (e : LintError) : Findings file lines (.error e)
  /-- The check gives notice of a failure. -/
  | notice (message details : String) :
      Findings file lines (.ok [.toolFailure file message details lines])
  /-- The check has read a report. -/
  | report (output : String) (directory : Path) :
      Findings file lines (.ok (parseReport output file directory lines))

theorem findings_of_error (file : Path) (lines : SourceLines) (e : InvokeError) :
    Findings file lines (Lint.findingsOfError file lines e) := by
  cases e with
  | config e => exact .error _
  | tool record => exact .notice _ _
  | shadowFile cause => exact .error _
  | spawn executable cause => exact .error _

theorem findings_of_run (file : Path) (lines : SourceLines)
    (outcome : Except InvokeError InvocationRecord) :
    Findings file lines (Lint.findingsOfRun file lines outcome) := by
  cases outcome with
  | error e => exact findings_of_error file lines e
  | ok record => exact .report _ _

theorem findings_of_configError (file : Path) (lines : SourceLines) (e : ConfigError) :
    Findings file lines (Lint.findingsOfConfigError file lines e) := by
  rw [Lint.findingsOfConfigError]
  split
  · exact .notice _ _
  · exact .error _

namespace Workspace

variable {σ : Type}

theorem findings_check (checker : Checker σ) (w : Workspace σ) (target : CheckTarget) :
    Findings target.path (.ofText target.content) (w.check checker target).1 := by
  rw [check]
  split
  · next findings hprepared =>
    obtain ⟨e, -, rfl⟩ | ⟨config, e, -, -, rfl⟩ := prepared_eq_error_iff.mp hprepared
    · exact findings_of_configError _ _ e
    · exact findings_of_error _ _ e
  · exact findings_of_run _ _ _

/-- **No lint reports a position that its document does not have.** Whatever the session has
been through, whatever the settings and the files are and whatever the checker does, a finding
that is reported is about the document's file and lies inside the text that the document had
when the lint began. Where that text is shorter than 2³² characters, every number of the
finding fits into 32 bits. -/
theorem lint_findings_inside (checker : Checker σ) (w : Workspace σ) {doc : DocumentView}
    {path : Path} (hpath : doc.path = some path) (events : List EditorEvent)
    {ds : List Diagnostic} (h : (w.lint checker doc events).1 = .ok (some ds)) :
    ∀ d ∈ ds, d.file = path ∧
      (∃ length, d.Inside (.ofText doc.text) length) ∧
      (doc.text.length < 4294967296 →
        d.line < 4294967296 ∧ d.range.stop.character < 4294967296) := by
  -- Only findings of the check are ever reported, and these were placed in the text at the start.
  rw [lint_eq checker w hpath] at h
  have hreported := (Lint.settle_eq_some_iff.mp h).1
  have hplaced : ∀ d ∈ ds, d.file = path ∧
      ∃ length ≤ doc.text.length, d.Inside (.ofText doc.text) length := by
    have hfindings := findings_check checker w (doc.target path)
    rw [hreported] at hfindings
    intro d hd
    cases hfindings with
    | notice message details =>
      obtain rfl := List.mem_singleton.mp hd
      exact ⟨rfl, Diagnostic.inside_toolFailure path message details doc.text⟩
    | report output directory =>
      obtain ⟨entry, rfl⟩ := mem_parseReport hd
      exact ⟨rfl, ReportParser.inside_diagnostic _ doc.text entry⟩
  intro d hd
  obtain ⟨hfile, length, hle, hinside⟩ := hplaced d hd
  have hcount := SourceLines.count_ofText_le doc.text
  have hline := hinside.line_lt
  have hstop := hinside.stop_le
  exact ⟨hfile, ⟨length, hinside⟩, fun hshort => ⟨by omega, by omega⟩⟩

/-- A report of line 9 and column 400, where the buffer has two lines and the second is empty,
gives a finding at the start of the second line. -/
theorem lint_findings_inside_empty_line :
    let w : Workspace Script :=
      { session := { settings := ⟨{ mypyCommand := "mypy" }⟩ }
        files := { entries := [(["tmp"], .directory)] }
        checker := { responses := [.ok { stdout := "a.py:9:400: error: bad name\n" }] } }
    let doc : DocumentView := ⟨some ⟨"/w/a.py"⟩, "x = 1\n", true, true⟩
    let d : Diagnostic :=
      { severity := .error, file := ⟨"/w/a.py"⟩, line := 1, column := some 0,
        range := ⟨⟨1, 0⟩, ⟨1, 0⟩⟩, message := "bad name" }
    (w.lint Script.run doc []).1 = .ok (some [d]) ∧ d.file = ⟨"/w/a.py"⟩ ∧
      (∃ length, d.Inside (.ofText doc.text) length) ∧
      (doc.text.length < 4294967296 →
        d.line < 4294967296 ∧ d.range.stop.character < 4294967296) := by
  intro w doc d
  have hlint : (w.lint Script.run doc []).1 = .ok (some [d]) :=
    Lint.eq_ok_of_toOption (by decide +kernel)
  exact ⟨hlint, lint_findings_inside Script.run w rfl [] hlint d (List.mem_singleton_self d)⟩

end Workspace

end LintHost
