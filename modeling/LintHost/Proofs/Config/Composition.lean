import LintHost.Proofs.Config.Definitions

/-!
# Configuration files one after the other

A header at the start of a line is a clean cut: it names the section and closes the key that was
open, so nothing before it has a say in how the lines after it are read. What is read from such a
file is therefore what is read from its two parts, where the second counts first
(`LintHost.Ini.parse_section_by_section`).

The two readings that are compared, of the second part alone and after the first part, differ in
their documents from the header on. `LintHost.Ini.Reading.Over` says what they keep in common: the
section, the open key and, as the key that is open is one of the second part, its value. So each line
does the same to both.
-/

namespace LintHost

open Text

namespace Ini

namespace Reading

/-! ### Two readings of the same lines -/

/-- **A reading over a document**: it is in the state of another reading, which started with nothing,
and has what that one has, and else what the document has. -/
structure Over (base : Document) (r alone : Reading) : Prop where
  current : r.current = alone.current
  openKey : r.openKey = alone.openKey
  sections : ∀ name, (r.document.section? name).isSome = true ↔
    (base.section? name).isSome = true ∨ (alone.document.section? name).isSome = true
  values : ∀ name key, r.document.get? name key =
    (alone.document.get? name key).or (base.get? name key)
  /-- The open key was set in what the other reading has read. -/
  stored : ∀ key, alone.openKey = some key → alone.document.hasKey alone.current key = true

variable {base : Document} {r alone : Reading}

/-- The same value would be continued. -/
theorem Over.continued?_eq (h : Over base r alone) (raw : List Char) :
    r.continued? raw = alone.continued? raw := by
  rw [continued?, continued?, h.openKey, h.current]
  cases hopen : alone.openKey with
  | none => rfl
  | some key =>
    obtain ⟨value, hvalue⟩ := Option.isSome_iff_exists.mp (h.stored key hopen)
    simp only [Option.bind_eq_bind, Option.bind_some, h.values, hvalue, Option.some_or]

theorem Over.writes_iff (h : Over base r alone) (raw written : List Char) :
    r.Writes raw written ↔ alone.Writes raw written :=
  ⟨Writes.congr (h.continued?_eq raw).symm, Writes.congr (h.continued?_eq raw)⟩

/-- An action does the same to both readings. -/
theorem Over.perform (h : Over base r alone) (a : Action) :
    Over base (r.perform a) (alone.perform a) := by
  cases a with
  | pass => exact h
  | close => exact ⟨h.current, rfl, h.sections, h.values, nofun⟩
  | enter name =>
    refine ⟨rfl, rfl, fun other => ?_, fun other key => ?_, nofun⟩
    · rw [Reading.perform, Reading.perform, Document.isSome_section?_withSection,
        Document.isSome_section?_withSection, h.sections, or_assoc]
    · rw [Reading.perform, Reading.perform, Document.get?_withSection, Document.get?_withSection,
        h.values]
  | set key value =>
    refine ⟨h.current, rfl, fun name => ?_, fun name other => ?_, fun other hopen => ?_⟩
    · rw [Reading.perform, Reading.perform, Document.isSome_section?_set,
        Document.isSome_section?_set, h.sections, h.current, or_assoc]
    · rw [Reading.perform, Reading.perform, Document.get?_set, Document.get?_set, h.values,
        h.current]
      split
      · rfl
      · rfl
    · rw [← Option.some.inj hopen]
      exact (Document.hasKey_set _ _ _ _ _ _).mpr (Or.inr ⟨rfl, rfl⟩)

theorem Over.line (h : Over base r alone) (raw : List Char) :
    Over base (r.line raw) (alone.line raw) := by
  obtain ⟨a, hdoes⟩ := alone.exists_does raw
  rw [hdoes.line_eq, (hdoes.congr (h.continued?_eq raw)).line_eq]
  exact h.perform a

/-- **The readings stay in step**, whatever lines follow. -/
theorem Over.after (h : Over base r alone) (cs : List Char) :
    Over base (r.after cs) (alone.after cs) := by
  suffices hfold : ∀ ls : List (List Char), Over base (ls.foldl Reading.line r)
      (ls.foldl Reading.line alone) from hfold _
  intro ls
  induction ls generalizing r alone with
  | nil => exact h
  | cons raw ls ih => exact ih (h.line raw)

/-- A header brings a reading into the state in which it brings one that starts. -/
theorem over_header (r : Reading) (name : List Char) :
    Over r.document (r.line (['['] ++ name ++ [']']))
      (({} : Reading).line (['['] ++ name ++ [']'])) := by
  rw [(r.does_header name).line_eq, (({} : Reading).does_header name).line_eq]
  refine ⟨rfl, rfl, fun other => ?_, fun other key => ?_, nofun⟩
  · rw [Reading.perform, Reading.perform, Document.isSome_section?_withSection,
      Document.isSome_section?_withSection]
    simp [Document.section?]
  · rw [Reading.perform, Reading.perform, Document.get?_withSection, Document.get?_withSection]
    rfl

end Reading

/-! ### Two parts of a file -/

/-- The readings of the second part, alone and after the first one. -/
theorem over_after {before name : List Char} (hbefore : IsWhole before) (hname : '\n' ∉ name)
    (rest : List Char) :
    Reading.Over (({} : Reading).after before).document
      (({} : Reading).after (before ++ (['['] ++ name ++ [']'] ++ '\n' :: rest)))
      (({} : Reading).after (['['] ++ name ++ [']'] ++ '\n' :: rest)) := by
  have hfeed : '\n' ∉ ['['] ++ name ++ [']'] := by simpa using hname
  rw [Reading.after_append hbefore, Reading.after_feed hfeed, Reading.after_feed hfeed]
  exact (Reading.over_header _ name).after rest

/-- **A file is read section by section.** Let a part of it end where a line ends, and let the next
line be a header. Then the sections of the whole are those of the two parts; a key has the value that
it has in the second part, and if it is not there, that of the first part; every line that follows is
read as it is without the first part; and of several definitions of a key, the last one counts, with
the lines that continue it. -/
theorem parse_section_by_section {before name : String} (hbefore : IsWhole before.toList)
    (hname : '\n' ∉ name.toList) (rest : String) :
    let second := "[" ++ name ++ "]\n" ++ rest
    let whole := before ++ second
    (∀ sectionName, ((parse whole).section? sectionName).isSome = true ↔
      ((parse before).section? sectionName).isSome = true ∨
        ((parse second).section? sectionName).isSome = true) ∧
    (∀ sectionName key, (parse whole).get? sectionName key =
      if (parse second).hasKey sectionName key then (parse second).get? sectionName key
      else (parse before).get? sectionName key) ∧
    (let r := ({} : Reading).after whole.toList
     let alone := ({} : Reading).after second.toList
     r.current = alone.current ∧ r.openKey = alone.openKey ∧
      ∀ raw, r.continued? raw = alone.continued? raw ∧
        ∀ written, r.Writes raw written ↔ alone.Writes raw written) ∧
    ∀ sectionName key value, (parse whole).get? sectionName key = some value ↔
      ∃ above raw below, LastDefines whole above raw below sectionName key ∧
        value = definedValue raw below := by
  intro second whole
  have hsecond : second.toList = ['['] ++ name.toList ++ [']'] ++ '\n' :: rest.toList := by
    simp [second]
  have hover : Reading.Over (parse before) (({} : Reading).after whole.toList)
      (({} : Reading).after second.toList) := by
    rw [String.toList_append, hsecond]
    exact over_after hbefore hname rest.toList
  refine ⟨hover.sections, fun sectionName key => ?_, ⟨hover.current, hover.openKey, fun raw =>
    ⟨hover.continued?_eq raw, hover.writes_iff raw⟩⟩, fun _ _ _ => get?_parse_iff⟩
  have hvalues : (parse whole).get? sectionName key =
      ((parse second).get? sectionName key).or ((parse before).get? sectionName key) :=
    hover.values sectionName key
  rw [hvalues, Document.hasKey]
  cases (parse second).get? sectionName key with
  | none => rfl
  | some value => rfl

/-- A key that is open before the header, one that is defined in both parts with continuations, and a
section that is entered twice. -/
theorem parse_section_by_section_continued :
    let before := "[s]\nk = 1\n  one\n[t\nopen =\n"
    let rest := "  bare\nk = 2\n\ttwo\n# c\n  three\n"
    IsWhole before.toList ∧ '\n' ∉ " s ".toList ∧
      (parse (before ++ ("[" ++ " s " ++ "]\n" ++ rest))).get? "s" "k" = some "2\ntwo\nthree" ∧
      (parse (before ++ ("[" ++ " s " ++ "]\n" ++ rest))).get? "s" "open" =
        (parse before).get? "s" "open" := by
  intro before rest
  have hwhole : IsWhole before.toList := Or.inr (by decide)
  have hname : '\n' ∉ " s ".toList := by decide
  obtain ⟨-, hget, -, -⟩ := parse_section_by_section hwhole hname rest
  refine ⟨hwhole, hname, ?_, ?_⟩
  · rw [hget, if_pos (by decide +kernel)]
    decide +kernel
  · rw [hget, if_neg (by decide +kernel)]

end Ini

end LintHost
