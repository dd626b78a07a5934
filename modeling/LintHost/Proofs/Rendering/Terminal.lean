import LintHost.Proofs.Text.Lines
import LintHost.Rendering
import Mathlib.Data.List.Forall2

/-!
# The text report with and without colours

The text form of a report is written for a reader, who sees it in one of two forms: as it is, or
with escape sequences that colour some of its words. This file says what the plain form is, and that
the coloured one is the same text once its escape sequences are taken out.

| part of the plain report | what it says |
|---|---|
| the lines of a diagnostic | `LintHost.Diagnostic.IsBlock` |
| the last line | `LintHost.Terminal.Summarizes` |

The writer chooses between four forms of the summary. All of them are one sentence about the
severities that occur (`LintHost.Terminal.summary_eq`): its first word is the first of these
severities and it has one phrase for each of them.

An escape sequence ends at the first `m` after it begins, wherever that stands, so a piece of text
has to be stripped together with what follows it. `LintHost.Terminal.Strips` relates the two forms
of a piece whatever follows, and it is kept by everything that reports are put together with.
-/

namespace LintHost

/-! ### What a plain report says -/

/-- **The lines of a diagnostic**: the one that the diagnostic is displayed on, and one behind a bar
for each line of its description. -/
inductive Diagnostic.IsBlock (d : Diagnostic) : String → Prop
  | bare (h : d.description = none) : d.IsBlock (d.display ++ "\n")
  | described {text : String} {ls : List (List Char)} (h : d.description = some text)
      (hls : Text.HasLines text.toList ls) :
      d.IsBlock (d.display ++ "\n" ++
        String.join (ls.map fun line => "  | " ++ String.ofList line ++ "\n"))

/-- The texts of the diagnostic hold no escape character. -/
structure Diagnostic.IsPlain (d : Diagnostic) : Prop where
  file : '\x1b' ∉ d.file.text.toList
  message : '\x1b' ∉ d.message.toList
  description : ∀ text ∈ d.description, '\x1b' ∉ text.toList

namespace Terminal

/-- How many diagnostics are of a severity. -/
def number (ds : List Diagnostic) (s : Severity) : Nat :=
  ds.countP fun d => d.severity = s

/-- The severities that a summary is about, if they occur. -/
def occurring (ds : List Diagnostic) : List Severity :=
  [.error, .warning].filter fun s => number ds s ≠ 0

/-- A number of things: the noun is in the singular for one of them, and only then. -/
inductive IsPhrase (noun : String) : Nat → String → Prop
  | one : IsPhrase noun 1 ("1 " ++ noun)
  | many {n : Nat} (h : n ≠ 1) : IsPhrase noun n (Nat.repr n ++ " " ++ noun ++ "s")

/-- **What a summary says about diagnostics**: nothing without errors and warnings, and otherwise,
on one line, how many there are of those that occur. -/
structure Summarizes (ds : List Diagnostic) (text : String) : Prop where
  present_iff : text ≠ "" ↔ ∃ d ∈ ds, d.severity = .error ∨ d.severity = .warning
  on_line : text ≠ "" → ∃ line, text = line ++ "\n" ∧ '\n' ∉ line.toList
  error_iff : "error".toList <+: text.toList ↔ ∃ d ∈ ds, d.severity = .error
  states : text ≠ "" → ∃ first ∈ ["error", "warning"], ∃ phrases,
    List.Forall₂ (fun s phrase => IsPhrase s.word (number ds s) phrase) (occurring ds) phrases ∧
      text = first ++ ": " ++ " and ".intercalate phrases ++ " found\n"

/-! ### The lines of a diagnostic -/

theorem isBlock_diagnostic (d : Diagnostic) : d.IsBlock (diagnostic false d) := by
  have hheader : diagnostic false d =
      d.display ++ "\n" ++ (d.description.map descriptionLines).getD "" := rfl
  rw [hheader]
  cases hd : d.description with
  | none =>
    rw [Option.map_none, Option.getD_none, String.append_empty]
    exact .bare hd
  | some text => exact .described hd (Text.hasLines_lines text.toList)

/-! ### The summary as a sentence -/

theorem isPhrase_counted (n : Nat) (noun : String) : IsPhrase noun n (counted n noun) := by
  rw [counted]
  split
  · next h =>
    subst h
    rw [String.append_empty]
    exact .one
  · next h => exact .many h

/-- The characters of phrases. -/
def isPhraseChar (c : Char) : Bool :=
  c.isAlphanum || c == ' '

theorem all_counted (n : Nat) (s : Severity) :
    (counted n s.word).toList.all isPhraseChar = true := by
  have hnumber : (Nat.repr n).toList.all isPhraseChar = true := by
    rw [Nat.toList_repr, List.all_eq_true]
    intro c hc
    have hdigit : c.isDigit = true := Nat.isDigit_of_mem_toDigits (by decide) (by decide) hc
    simp [isPhraseChar, Char.isAlphanum, hdigit]
  have hnoun : s.word.toList.all isPhraseChar = true := by cases s <;> decide
  have hplural : (if n = 1 then "" else "s").toList.all isPhraseChar = true := by
    split <;> decide
  have hspace : " ".toList.all isPhraseChar = true := by decide
  rw [counted, String.toList_append, String.toList_append, String.toList_append, List.all_append,
    List.all_append, List.all_append, hnumber, hspace, hnoun, hplural]
  rfl

/-- The numbers of diagnostics with their nouns. -/
def phrases (ds : List Diagnostic) (ss : List Severity) : String :=
  " and ".intercalate (ss.map fun s => counted (number ds s) s.word)

theorem all_phrases (ds : List Diagnostic) (ss : List Severity) :
    (phrases ds ss).toList.all isPhraseChar = true := by
  induction ss with
  | nil => rfl
  | cons s more ih =>
    by_cases hmore : more = []
    · subst hmore
      rw [phrases, List.map_singleton, String.intercalate_singleton]
      exact all_counted _ s
    · have hand : " and ".toList.all isPhraseChar = true := by decide
      rw [phrases, List.map_cons, String.intercalate_cons_of_ne_nil (by simpa using hmore),
        String.toList_append, String.toList_append, List.all_append, List.all_append, all_counted,
        hand, ← phrases, ih]
      rfl

theorem not_mem_phrases {c : Char} (h : isPhraseChar c = false) (ds : List Diagnostic)
    (ss : List Severity) : c ∉ (phrases ds ss).toList := by
  intro hc
  have hphrase := List.all_eq_true.mp (all_phrases ds ss) c hc
  exact absurd (hphrase.symm.trans h) (by decide)

/-- A sentence about severities: the first of them is its first word. -/
def sentence (colors : Bool) (ds : List Diagnostic) : List Severity → String
  | [] => ""
  | s :: more =>
    paint colors (severityAttributes s) s.word ++ ": " ++ phrases ds (s :: more) ++ " found\n"

/-- **The four forms of a summary** are one sentence about the severities that occur. -/
theorem summary_eq (colors : Bool) (ds : List Diagnostic) :
    summary colors (ds.countP Diagnostic.isError) (ds.countP Diagnostic.isWarning) =
      sentence colors ds (occurring ds) := by
  have herror : ds.countP Diagnostic.isError = number ds .error := rfl
  have hwarning : ds.countP Diagnostic.isWarning = number ds .warning := rfl
  rw [herror, hwarning, summary, occurring]
  -- Which of the two occur tells both the branch of the writer and the severities of the sentence.
  by_cases he : number ds .error = 0 <;> by_cases hw : number ds .warning = 0 <;>
    simp [he, hw, sentence, phrases, Severity.word, String.append_assoc]

theorem mem_occurring_iff {ds : List Diagnostic} {s : Severity} :
    s ∈ occurring ds ↔ (s = .error ∨ s = .warning) ∧ ∃ d ∈ ds, d.severity = s := by
  simp [occurring, number, List.countP_eq_zero]

theorem occurring_ne_nil_iff {ds : List Diagnostic} :
    occurring ds ≠ [] ↔ ∃ d ∈ ds, d.severity = .error ∨ d.severity = .warning := by
  constructor
  · intro hne
    obtain ⟨s, hs⟩ := List.exists_mem_of_ne_nil _ hne
    obtain ⟨hkind, d, hd, rfl⟩ := mem_occurring_iff.mp hs
    exact ⟨d, hd, hkind⟩
  · rintro ⟨d, hd, hkind⟩
    exact List.ne_nil_of_mem (mem_occurring_iff.mpr ⟨hkind, d, hd, rfl⟩)

/-- Errors come first in a summary. -/
theorem eq_error_iff_of_occurring {ds : List Diagnostic} {s : Severity} {more : List Severity}
    (h : occurring ds = s :: more) : s = .error ↔ ∃ d ∈ ds, d.severity = .error := by
  constructor
  · rintro rfl
    exact (mem_occurring_iff.mp (h ▸ List.mem_cons_self)).2
  · intro herror
    have hnumber : number ds .error ≠ 0 := by simpa [number, List.countP_eq_zero] using herror
    rw [occurring, List.filter_cons_of_pos (by simpa using hnumber)] at h
    exact (List.cons.inj h).1.symm

theorem sentence_cons (ds : List Diagnostic) (s : Severity) (more : List Severity) :
    sentence false ds (s :: more) = s.word ++ ": " ++ phrases ds (s :: more) ++ " found\n" :=
  rfl

theorem sentence_cons_ne_empty (ds : List Diagnostic) (s : Severity) (more : List Severity) :
    sentence false ds (s :: more) ≠ "" := by
  intro h
  have hchars := congrArg String.toList h
  simp [sentence_cons] at hchars

/-- A sentence is a line. -/
theorem exists_sentence_line (ds : List Diagnostic) (s : Severity) (more : List Severity) :
    ∃ line, sentence false ds (s :: more) = line ++ "\n" ∧ '\n' ∉ line.toList := by
  refine ⟨s.word ++ ": " ++ phrases ds (s :: more) ++ " found", ?_, ?_⟩
  · have hend : " found\n" = " found" ++ "\n" := rfl
    rw [sentence_cons, hend, ← String.append_assoc]
  · have hword : '\n' ∉ s.word.toList := by cases s <;> decide
    have hphrases := not_mem_phrases (c := '\n') (by decide) ds (s :: more)
    simp [hword, hphrases]

theorem error_prefix_sentence_iff {ds : List Diagnostic} {s : Severity} {more : List Severity}
    (h : s = .error ∨ s = .warning) :
    "error".toList <+: (sentence false ds (s :: more)).toList ↔ s = .error := by
  rw [sentence_cons, String.append_assoc, String.append_assoc, String.toList_append]
  obtain rfl | rfl := h
  · exact iff_of_true (List.prefix_append ..) rfl
  · -- Both words are followed by something, but their first letters differ.
    refine iff_of_false (fun hpre => ?_) (by decide)
    simp [Severity.word] at hpre

/-- The plain sentence about the severities that occur is what a summary has to say. -/
theorem summarizes_sentence (ds : List Diagnostic) :
    Summarizes ds (sentence false ds (occurring ds)) := by
  cases hs : occurring ds with
  | nil =>
    have hnone : ¬∃ d ∈ ds, d.severity = .error ∨ d.severity = .warning :=
      fun h => occurring_ne_nil_iff.mpr h hs
    have hempty : ¬"error".toList <+: "".toList := by decide
    exact {
      present_iff := iff_of_false (fun h => h rfl) hnone
      on_line := fun h => absurd rfl h
      error_iff := iff_of_false hempty fun ⟨d, hd, he⟩ => hnone ⟨d, hd, Or.inl he⟩
      states := fun h => absurd rfl h }
  | cons s more =>
    have hkind : s = .error ∨ s = .warning :=
      (mem_occurring_iff.mp (hs ▸ List.mem_cons_self)).1
    have hword : s.word ∈ ["error", "warning"] := by
      obtain rfl | rfl := hkind <;> decide
    exact {
      present_iff := iff_of_true (sentence_cons_ne_empty ds s more)
        (occurring_ne_nil_iff.mp (hs ▸ List.cons_ne_nil s more))
      on_line := fun _ => exists_sentence_line ds s more
      error_iff := (error_prefix_sentence_iff hkind).trans (eq_error_iff_of_occurring hs)
      states := fun _ => ⟨s.word, hword, _, by
        rw [hs, List.forall₂_map_right_iff, List.forall₂_same]
        exact fun t _ => isPhrase_counted (number ds t) t.word, rfl⟩ }

/-! ### Escape sequences -/

/-- **A text without its escape sequences**, each of which goes from an escape character and a
bracket up to the next `m`. Whatever is not ended stays. -/
def withoutEscapes : List Char → List Char
  | [] => []
  | '\x1b' :: '[' :: cs =>
    if 'm' ∈ cs then withoutEscapes (cs.dropWhile (· ≠ 'm')).tail
    else '\x1b' :: '[' :: withoutEscapes cs
  | c :: cs => c :: withoutEscapes cs
termination_by cs => cs.length
decreasing_by
  · have hlength := (List.dropWhile_sublist (l := cs) fun c => decide (c ≠ 'm')).length_le
    rw [List.length_tail, List.length_cons, List.length_cons]
    omega
  · exact Nat.lt_succ_of_lt (Nat.lt_succ_self _)
  · exact Nat.lt_succ_self _

theorem withoutEscapes_cons {c : Char} (h : c ≠ '\x1b') (cs : List Char) :
    withoutEscapes (c :: cs) = c :: withoutEscapes cs := by
  rw [withoutEscapes]
  intro cs hc
  exact absurd hc h

theorem withoutEscapes_sequence {attributes : List Char} (h : 'm' ∉ attributes)
    (rest : List Char) :
    withoutEscapes ('\x1b' :: '[' :: (attributes ++ 'm' :: rest)) = withoutEscapes rest := by
  rw [withoutEscapes, if_pos (by simp), List.dropWhile_append_of_pos]
  · simp
  · intro c hc
    simpa using fun heq : c = 'm' => h (heq ▸ hc)

/-- **The coloured form of a piece of text strips to its plain form**, whatever follows it: a sequence
that the piece begins and does not end would go on into the rest. -/
def Strips (coloured plain : String) : Prop :=
  ∀ rest, withoutEscapes (coloured.toList ++ rest) = plain.toList ++ withoutEscapes rest

variable {coloured plain text : String}

/-- A text without escape characters is its own plain form. -/
theorem Strips.refl (h : '\x1b' ∉ text.toList) : Strips text text := by
  intro rest
  generalize text.toList = cs at h
  induction cs with
  | nil => rfl
  | cons c cs ih =>
    rw [List.mem_cons, not_or] at h
    rw [List.cons_append, withoutEscapes_cons (Ne.symm h.1), ih h.2, List.cons_append]

theorem Strips.append {coloured' plain' : String} (h : Strips coloured plain)
    (h' : Strips coloured' plain') : Strips (coloured ++ coloured') (plain ++ plain') := by
  intro rest
  rw [String.toList_append, String.toList_append, List.append_assoc, h, h', List.append_assoc]

/-- Piece by piece. -/
theorem Strips.join {α : Type} {coloured plain : α → String} {xs : List α}
    (h : ∀ x ∈ xs, Strips (coloured x) (plain x)) :
    Strips (String.join (xs.map coloured)) (String.join (xs.map plain)) := by
  induction xs with
  | nil => exact .refl (by simp)
  | cons x xs ih =>
    rw [List.map_cons, List.map_cons, String.join_cons, String.join_cons]
    exact (h x List.mem_cons_self).append (ih fun y hy => h y (List.mem_cons_of_mem _ hy))

/-- An escape sequence leaves nothing. -/
theorem strips_escape {attributes : String} (h : 'm' ∉ attributes.toList) :
    Strips (escape attributes) "" := by
  intro rest
  have hsequence := withoutEscapes_sequence h rest
  simpa [escape] using hsequence

theorem strips_paint {attributes : String} (h : 'm' ∉ attributes.toList)
    (htext : '\x1b' ∉ text.toList) :
    Strips (paint true attributes text) (paint false attributes text) := by
  have hreset : Strips (escape "0") "" := strips_escape (by decide)
  have hpainted := ((strips_escape h).append (.refl htext)).append hreset
  rwa [String.empty_append, String.append_empty] at hpainted

/-- With nothing after it, a coloured text is its plain form as soon as it is stripped. -/
theorem Strips.withoutEscapes_eq (h : Strips coloured plain) :
    withoutEscapes coloured.toList = plain.toList := by
  have hnil := h []
  rwa [List.append_nil, withoutEscapes, List.append_nil] at hnil

/-! ### Both forms of a report -/

theorem not_mem_severityAttributes (s : Severity) : 'm' ∉ (severityAttributes s).toList := by
  cases s <;> decide

theorem escape_not_mem_word (s : Severity) : '\x1b' ∉ s.word.toList := by
  cases s <;> decide

theorem escape_not_mem_toDigits (n : Nat) : '\x1b' ∉ Nat.toDigits 10 n := fun h =>
  absurd (Nat.isDigit_of_mem_toDigits (by decide) (by decide) h) (by decide)

theorem escape_not_mem_place {d : Diagnostic} (h : d.IsPlain) : '\x1b' ∉ d.place.toList := by
  rw [Diagnostic.place]
  cases d.column <;> simp [h.file, escape_not_mem_toDigits]

theorem escape_not_mem_descriptionLines {description : String}
    (h : '\x1b' ∉ description.toList) : '\x1b' ∉ (descriptionLines description).toList := by
  rw [descriptionLines, String.toList_join, List.mem_flatMap]
  rintro ⟨shown, hshown, hc⟩
  obtain ⟨line, hline, rfl⟩ := List.mem_map.mp hshown
  have hmem : '\x1b' ∉ line := fun hc => h ((Text.mem_of_mem_lines hline).2 _ hc)
  simp [hmem] at hc

theorem strips_severity (s : Severity) :
    Strips (paint true (severityAttributes s) s.word) (paint false (severityAttributes s) s.word) :=
  strips_paint (not_mem_severityAttributes s) (escape_not_mem_word s)

theorem strips_diagnostic {d : Diagnostic} (h : d.IsPlain) :
    Strips (diagnostic true d) (diagnostic false d) := by
  -- Both forms are the same pieces in the same order, of which only two are painted.
  have hcolon : Strips ": " ": " := .refl (by decide)
  have hplace : Strips (paint true "1" d.place) (paint false "1" d.place) :=
    strips_paint (by decide) (escape_not_mem_place h)
  have hdescription : '\x1b' ∉ ((d.description.map descriptionLines).getD "").toList := by
    cases hd : d.description with
    | none => simp
    | some text => exact escape_not_mem_descriptionLines (h.description text hd)
  exact (((((hplace.append hcolon).append (strips_severity d.severity)).append hcolon).append
    (.refl h.message)).append (.refl (by decide))).append (.refl hdescription)

theorem strips_sentence (ds : List Diagnostic) (ss : List Severity) :
    Strips (sentence true ds ss) (sentence false ds ss) := by
  cases ss with
  | nil =>
    have hempty : '\x1b' ∉ "".toList := by decide
    exact .refl hempty
  | cons s more =>
    have hphrases := not_mem_phrases (c := '\x1b') (by decide) ds (s :: more)
    exact (((strips_severity s).append (.refl (by decide))).append (.refl hphrases)).append
      (.refl (by decide))

end Terminal

theorem renderReport_text (ds : List Diagnostic) (colors : Bool) :
    renderReport ds .text colors = String.join (ds.map (Terminal.diagnostic colors)) ++
      Terminal.sentence colors ds (Terminal.occurring ds) := by
  rw [← Terminal.summary_eq]
  rfl

/-- **The two forms of a text report.** The plain one has the lines of each diagnostic in order and
then a summary of them; the coloured one is the plain one as soon as its escape sequences are taken
out, if the diagnostics hold no escape characters of their own. -/
theorem renderReport_text_agrees (ds : List Diagnostic) :
    (∃ blocks summary, List.Forall₂ Diagnostic.IsBlock ds blocks ∧
      Terminal.Summarizes ds summary ∧
      renderReport ds .text false = String.join blocks ++ summary) ∧
    ((∀ d ∈ ds, d.IsPlain) →
      Terminal.withoutEscapes (renderReport ds .text true).toList =
        (renderReport ds .text false).toList) := by
  constructor
  · refine ⟨ds.map (Terminal.diagnostic false), _, ?_, Terminal.summarizes_sentence ds,
      renderReport_text ds false⟩
    rw [List.forall₂_map_right_iff, List.forall₂_same]
    exact fun d _ => Terminal.isBlock_diagnostic d
  · intro hplain
    rw [renderReport_text, renderReport_text]
    have hblocks := Terminal.Strips.join fun d hd => Terminal.strips_diagnostic (hplain d hd)
    exact (hblocks.append (Terminal.strips_sentence ds _)).withoutEscapes_eq

/-- A report on an error with a description of two lines and on a warning, in both forms. -/
theorem renderReport_text_agrees_described :
    let error : Diagnostic :=
      { severity := .error, file := ⟨"a.py"⟩, line := 0, column := some 9, message := "bad [m]",
        description := some "first\r\n\nmore" }
    let warning : Diagnostic :=
      { severity := .warning, file := ⟨"a.py"⟩, line := 4, message := "unused" }
    let ds := [error, warning, warning]
    let plain := "a.py:1:10: error: bad [m]\n  | first\n  | \n  | more\na.py:5: warning: unused\n" ++
      "a.py:5: warning: unused\nerror: 1 error and 2 warnings found\n"
    (∀ d ∈ ds, d.IsPlain) ∧ renderReport ds .text false = plain ∧
      (Terminal.summary false 1 2).toList <:+ plain.toList ∧
      renderReport ds .text true ≠ plain ∧
      Terminal.withoutEscapes (renderReport ds .text true).toList = plain.toList := by
  intro error warning ds plain
  have herror : error.IsPlain := ⟨by decide, by decide, by simp [error]⟩
  have hwarning : warning.IsPlain := ⟨by decide, by decide, nofun⟩
  have hplain : ∀ d ∈ ds, d.IsPlain := by
    simp only [ds, List.forall_mem_cons]
    exact ⟨herror, hwarning, hwarning, nofun⟩
  have hform : renderReport ds .text false = plain := by decide +kernel
  have hstripped := (renderReport_text_agrees ds).2 hplain
  rw [hform] at hstripped
  exact ⟨hplain, hform, by decide +kernel, by decide +kernel, hstripped⟩

end LintHost
