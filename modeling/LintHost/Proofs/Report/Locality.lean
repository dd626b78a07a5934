import LintHost.Proofs.Report.Relevance
import LintHost.Proofs.Text.Lines

/-!
# A report is read line by line

What a line of a report means does not depend on the lines around it. The diagnostics are those of
the lines that are entries, in their order and as often as they occur
(`LintHost.ReportParser.parse_of_hasLines`), so reports can be put one after the other, other lines
can stand anywhere between two lines, and it makes no difference whether the lines end with a line
feed or with a carriage return before it: `LintHost.ReportParser.parse_line_by_line`.

Here a line is what the way in which the report is written makes it, `LintHost.Text.HasLines`: a
carriage return inside a line, or at the end of a last line without a line feed, is a part of it.
-/

namespace LintHost.ReportParser

open Text (HasLines IsWhole hasLines_iff hasLines_lines lines_append lines_concat_feed
  lines_withReturns withReturns)

variable {parser : ReportParser} {lines : SourceLines}

/-- The entry that a line is. -/
def entryOf? (parser : ReportParser) (line : List Char) : Option ReportEntry :=
  match parser.classify line with
  | .entry entry => some entry
  | _ => none

theorem entryOf?_eq_none_iff {line : List Char} :
    parser.entryOf? line = none ↔ ∀ entry, parser.classify line ≠ .entry entry := by
  rw [entryOf?]
  cases parser.classify line <;> simp

theorem contribution_eq_map (parser : ReportParser) (lines : SourceLines) :
    parser.contribution lines = fun line => (parser.entryOf? line).map (parser.diagnostic lines) := by
  funext line
  rw [contribution, entryOf?]
  cases parser.classify line <;> rfl

/-- **The diagnostics of a report** are those of its entries. -/
theorem parse_of_hasLines {output : String} {ls : List (List Char)}
    (h : HasLines output.toList ls) :
    parser.parse output lines = (ls.filterMap parser.entryOf?).map (parser.diagnostic lines) := by
  rw [parse_eq, hasLines_iff.mp h, contribution_eq_map, List.map_filterMap]

/-- Reports one after the other. -/
theorem parse_append {first : String} (h : IsWhole first.toList) (second : String) :
    parser.parse (first ++ second) lines = parser.parse first lines ++ parser.parse second lines := by
  rw [parse_eq, parse_eq, parse_eq, String.toList_append, lines_append h, List.filterMap_append]

theorem isWhole_append_feed (output : String) : IsWhole (output ++ "\n").toList := by
  rw [String.toList_append]
  exact Or.inr (List.getLast?_concat ..)

/-- The last line of a report may be ended, if that does not take a carriage return from it. -/
theorem parse_append_feed (lines : SourceLines) {output : String} (h : ¬IsWhole output.toList)
    (hreturn : output.toList.getLast? ≠ some '\r') :
    parser.parse (output ++ "\n") lines = parser.parse output lines := by
  have hended : (output ++ "\n").toList = output.toList ++ ['\n'] := by
    rw [String.toList_append]
    rfl
  rw [parse_eq, parse_eq, hended, lines_concat_feed h hreturn]

/-- A report of one line that is no entry, with a line feed after it or without. -/
theorem parse_eq_nil (lines : SourceLines) {line ending : String} (hfeed : '\n' ∉ line.toList)
    (hreturn : line.toList.getLast? ≠ some '\r')
    (hentry : ∀ entry, parser.classify line.toList ≠ .entry entry)
    (hending : ending = "\n" ∨ ending = "") : parser.parse (line ++ ending) lines = [] := by
  have hnone := entryOf?_eq_none_iff.mpr hentry
  obtain rfl | rfl := hending
  · have hlines : HasLines (line ++ "\n").toList [line.toList] := by
      rw [String.toList_append]
      exact .feed hfeed hreturn .nil
    rw [parse_of_hasLines hlines, List.filterMap_cons_none hnone]
    rfl
  · rw [String.append_empty]
    by_cases hne : line.toList = []
    · have hlines : HasLines line.toList [] := by
        rw [hne]
        exact .nil
      rw [parse_of_hasLines hlines]
      rfl
    · rw [parse_of_hasLines (.last hne hfeed), List.filterMap_cons_none hnone]
      rfl

/-- **A report is read line by line.** Reports whose lines are all ended can be followed by others; a
line that is no entry can be put before any line, at the end of such a report, or under a last line
that has no end; carriage returns can be put before all line feeds, if none is there; and the
diagnostics are those of the entries among the lines, whatever the other lines are. -/
theorem parse_line_by_line (parser : ReportParser) (lines : SourceLines) :
    (∀ first second : String, IsWhole first.toList →
      parser.parse (first ++ second) lines =
        parser.parse first lines ++ parser.parse second lines) ∧
    (∀ line : String, '\n' ∉ line.toList → line.toList.getLast? ≠ some '\r' →
      (∀ entry, parser.classify line.toList ≠ .entry entry) → ∀ before : String,
      (IsWhole before.toList →
        (∀ after, parser.parse (before ++ (line ++ "\n") ++ after) lines =
          parser.parse (before ++ after) lines) ∧
        parser.parse (before ++ line) lines = parser.parse before lines) ∧
      (¬IsWhole before.toList → before.toList.getLast? ≠ some '\r' →
        parser.parse (before ++ "\n" ++ line) lines = parser.parse before lines)) ∧
    (∀ output : String, ¬['\r', '\n'] <:+: output.toList →
      parser.parse (String.ofList (withReturns output.toList)) lines =
        parser.parse output lines) ∧
    ∀ output : String, (∃ ls, HasLines output.toList ls) ∧
      ∀ ls, HasLines output.toList ls →
        parser.parse output lines = (ls.filterMap parser.entryOf?).map (parser.diagnostic lines) := by
  refine ⟨fun first second h => parse_append h second, ?_, ?_, fun output => ⟨?_, ?_⟩⟩
  · intro line hfeed hreturn hentry before
    have hnil := parse_eq_nil lines hfeed hreturn hentry (Or.inl rfl)
    have hlast := parse_eq_nil lines hfeed hreturn hentry (Or.inr rfl)
    rw [String.append_empty] at hlast
    refine ⟨fun hbefore => ⟨fun after => ?_, ?_⟩, fun hbefore hbeforeReturn => ?_⟩
    · have hboth : IsWhole (before ++ (line ++ "\n")).toList := by
        rw [String.toList_append]
        exact hbefore.append (isWhole_append_feed line)
      rw [parse_append hboth, parse_append hbefore, hnil, List.append_nil, parse_append hbefore]
    · rw [parse_append hbefore, hlast, List.append_nil]
    · rw [parse_append (isWhole_append_feed before), hlast, List.append_nil,
        parse_append_feed lines hbefore hbeforeReturn]
  · intro output h
    rw [parse_eq, parse_eq, String.toList_ofList, lines_withReturns h]
  · exact ⟨_, hasLines_lines _⟩
  · exact fun ls => parse_of_hasLines

/-- The same around a first line that ends with a carriage return of its own, and with last lines that
have no end. -/
theorem parse_line_by_line_lone_return :
    let parser := make ⟨"/w/a.py"⟩ ⟨"/w"⟩
    let lines := SourceLines.ofText "x = 1"
    let first := "a.py:1:0: error: b\r\n"
    let last := "a.py:1:0: error: b\r"
    let bare := "a.py:1:0: error: b"
    let odd := "a.py: odd"
    (IsWhole first.toList ∧
      parser.parse (first ++ last) lines = parser.parse first lines ++ parser.parse last lines) ∧
    ('\n' ∉ odd.toList ∧ odd.toList.getLast? ≠ some '\r' ∧
      (∀ entry, parser.classify odd.toList ≠ .entry entry) ∧
      parser.parse (first ++ (odd ++ "\n") ++ last) lines = parser.parse (first ++ last) lines ∧
      parser.parse (first ++ odd) lines = parser.parse first lines ∧
      ¬IsWhole bare.toList ∧ bare.toList.getLast? ≠ some '\r' ∧
      parser.parse (bare ++ "\n" ++ odd) lines = parser.parse bare lines) ∧
    (¬['\r', '\n'] <:+: (odd ++ "\n" ++ last).toList ∧
      parser.parse (String.ofList (withReturns (odd ++ "\n" ++ last).toList)) lines =
        parser.parse (odd ++ "\n" ++ last) lines) ∧
    HasLines last.toList [last.toList] ∧
      (parser.parse last lines).map (·.message) = ["b\r"] := by
  intro parser lines first last bare odd
  have hwhole : IsWhole first.toList := Or.inr (by decide)
  have hbare : ¬IsWhole bare.toList := not_or.mpr ⟨by decide, by decide⟩
  have hodd : parser.classify odd.toList = .malformed ": odd" := by decide +kernel
  have hentry : ∀ entry, parser.classify odd.toList ≠ .entry entry := by
    rw [hodd]
    exact fun _ => nofun
  have hends : ¬['\r', '\n'] <:+: (odd ++ "\n" ++ last).toList := by decide +kernel
  have hlast : HasLines last.toList [last.toList] := .last (by decide) (by decide)
  obtain ⟨happend, hinsert, hreturns, hlines⟩ := parse_line_by_line parser lines
  have hinsert := hinsert odd (by decide) (by decide) hentry
  have hmessage : ([last.toList].filterMap parser.entryOf?).map (·.message) = ["b\r"] := by
    decide +kernel
  refine ⟨⟨hwhole, happend first last hwhole⟩, ⟨by decide, by decide, hentry,
    ((hinsert first).1 hwhole).1 last, ((hinsert first).1 hwhole).2, hbare, by decide,
    (hinsert bare).2 hbare (by decide)⟩, ⟨hends, hreturns _ hends⟩, hlast, ?_⟩
  rw [(hlines last).2 _ hlast, List.map_map]
  exact hmessage

end LintHost.ReportParser
