import LintHost.Proofs.Path.Enclosing
import LintHost.Proofs.Report.Grammar

/-!
# Which lines a report parser picks out

A report mentions many files, and the parser of one file keeps the lines about that file. Which they
are is said here by what stands before the first colon of a line, its **lead**
(`LintHost.Leads`). For a file without a colon in its path, checked from a directory that encloses
it, the parser has two spellings, the way from the directory and the file as it was given, and keeps
exactly the lines with one of them as their lead
(`LintHost.ReportParser.relevant_iff_of_spellings`). Each line is judged on its own, and those that
are written as entries contribute one diagnostic each
(`LintHost.ReportParser.contribution_eq_some_iff`).
-/

namespace LintHost

/-- **A text leads a line** if it is what stands before the first colon, and there is a colon. -/
def Leads (lead : String) (line : List Char) : Prop :=
  line.takeWhile (· ≠ ':') = lead.toList ∧ ':' ∈ line

/-- A line names a file by what leads it, if that has no colon. -/
theorem names_iff_leads {lead : String} (h : ':' ∉ lead.toList) {line : List Char} :
    Names lead line ↔ Leads lead line := by
  constructor
  · rintro ⟨rest, rfl⟩
    have hlead : ∀ c ∈ lead.toList, decide (c ≠ ':') = true := fun c hc =>
      decide_eq_true (ne_of_mem_of_not_mem hc h)
    refine ⟨?_, List.mem_append_right _ List.mem_cons_self⟩
    rw [List.takeWhile_append_of_pos hlead, List.takeWhile_cons_of_neg (by simp), List.append_nil]
  · rintro ⟨hlead, hcolon⟩
    -- After the lead comes either nothing, which the colon rules out, or the colon itself.
    have hcut := List.takeWhile_append_dropWhile (p := (· ≠ ':')) (l := line)
    rw [hlead] at hcut
    cases hrest : line.dropWhile (· ≠ ':') with
    | nil =>
      rw [hrest, List.append_nil] at hcut
      exact absurd hcolon (hcut ▸ h)
    | cons c rest =>
      have hc := List.head?_dropWhile_not (· ≠ ':') line
      rw [hrest] at hc
      obtain rfl : c = ':' := by simpa using hc
      exact ⟨rest, by rw [← hrest, hcut]⟩

/-- **The way to a file below a folder**: what the components of the file have after those of the
folder, each in its spelling, with slashes between them. -/
def Path.WayBelow (folder file : Path) (way : String) : Prop :=
  ∃ below, below ≠ [] ∧ file.components = folder.components ++ below ∧
    way.toList = Text.join '/' (below.map fun c => (Path.ofComponent c).chars)

namespace ReportParser

/-! ### The spellings -/

variable {file directory : Path}

/-- **From an enclosing directory a file has two spellings**, the way below the directory first.
The two differ, since the file is spelled with a slash at its start and the way is not. -/
theorem spellings_of_encloses (hfile : file.isAbsolute = true)
    (hdirectory : directory.isAbsolute = true) (h : directory.Encloses file) :
    ∃ way : String, directory.WayBelow file way ∧ way ≠ "" ∧ way.toList.head? ≠ some '/' ∧
      (make file directory).spellings = [way, file.text] ∧
      ∀ c ∈ way.toList, c = '/' ∨ c ∈ file.chars := by
  obtain ⟨below, r, hne, hcomponents, hway, hchars, hempty, habsolute, hmem⟩ :=
    Path.relativeTo?_of_encloses hdirectory h
  have htext : r.text ≠ "" := fun h => hempty (by rw [Path.chars, h]; rfl)
  have hdiffer : r.text ≠ file.text := by
    intro heq
    obtain rfl : r = file := congrArg Path.mk heq
    exact absurd (habsolute.symm.trans hfile) (by decide)
  refine ⟨r.text, ⟨below, hne, hcomponents, hchars⟩, htext, ?_, ?_, hmem⟩
  · rw [Path.isAbsolute, beq_eq_false_iff_ne] at habsolute
    exact habsolute
  · simp [make, hway, htext, Ne.symm hdiffer]

/-! ### The lines -/

/-- A line that a parser keeps: it is an entry, or malformed. -/
def Relevant (parser : ReportParser) (line : List Char) : Prop :=
  (∃ entry, parser.classify line = .entry entry) ∨ ∃ tail, parser.classify line = .malformed tail

theorem relevant_iff {parser : ReportParser} {line : List Char} :
    parser.Relevant line ↔ ∃ p ∈ parser.spellings, Names p line := by
  have hforeign : parser.Relevant line ↔ parser.classify line ≠ .foreign := by
    rw [Relevant]
    cases parser.classify line <;> simp
  rw [hforeign, ne_eq, classify_eq_foreign_iff]
  simp

/-- **A line is kept** exactly if one of the two spellings leads it. -/
theorem relevant_iff_of_spellings {way : String}
    (hspellings : (make file directory).spellings = [way, file.text])
    (hway : ':' ∉ way.toList) (hcolon : ':' ∉ file.chars) (line : List Char) :
    (make file directory).Relevant line ↔ Leads way line ∨ Leads file.text line := by
  rw [relevant_iff, hspellings, ← names_iff_leads hway, ← names_iff_leads hcolon]
  simp

/-- What a line contributes to the diagnostics: that of the entry that it is, or nothing. -/
def contribution (parser : ReportParser) (lines : SourceLines) (line : List Char) :
    Option Diagnostic :=
  match parser.classify line with
  | .entry entry => some (parser.diagnostic lines entry)
  | _ => none

/-- **Each line is judged on its own.** -/
theorem parse_eq (parser : ReportParser) (output : String) (lines : SourceLines) :
    parser.parse output lines =
      (Text.lines output.toList).filterMap (parser.contribution lines) := rfl

/-- What a line contributes is the diagnostic of the entry that is written after a spelling. -/
theorem contribution_eq_some_iff (hfile : file.isAbsolute = true) {lines : SourceLines}
    {line : List Char} {d : Diagnostic} :
    (make file directory).contribution lines line = some d ↔
      ∃ p ∈ (make file directory).spellings, ∃ tail entry, line = p.toList ++ tail ∧
        EntryTail tail entry ∧ d = (make file directory).diagnostic lines entry := by
  have hentry : (make file directory).contribution lines line = some d ↔
      ∃ entry, (make file directory).classify line = .entry entry ∧
        d = (make file directory).diagnostic lines entry := by
    rw [contribution]
    cases (make file directory).classify line <;> simp [eq_comm]
  rw [hentry]
  constructor
  · rintro ⟨entry, hclassify, rfl⟩
    obtain ⟨tail, htail, hwritten⟩ := classify_eq_entry_iff.mp hclassify
    obtain ⟨p, hp, hline, -⟩ := (tail?_eq_some_iff hfile).mp htail
    exact ⟨p, hp, tail, entry, hline, hwritten, rfl⟩
  · rintro ⟨p, hp, tail, entry, hline, hwritten, rfl⟩
    -- What is written as an entry starts with a colon.
    have hhead : tail.head? = some ':' := by
      cases hwritten
      rfl
    exact ⟨entry, classify_eq_entry_iff.mpr
      ⟨tail, (tail?_eq_some_iff hfile).mpr ⟨p, hp, hline, hhead⟩, hwritten⟩, rfl⟩

end ReportParser

end LintHost
