import LintHost.CheckerReport
import LintHost.Proofs.Path.Absolute

/-!
# The grammar of a report line

`LintHost.ReportParser.classify` reads a line by cutting off a spelling of the file, runs of
digits and a label, one after the other. Here the lines that it takes for entries are written
down without any reading, as texts that are put together from their parts, and the two are
shown to be the same.

| part of a line | how it is written | what reads it |
|---|---|---|
| the line number and the column | `LintHost.Numeral` | `LintHost.numeral_iff_number?` |
| an optional column | `LintHost.ColumnText` | `LintHost.ReportEntry.read?` |
| the label and the message | `LintHost.Severity.label` | `LintHost.labelled?_eq_some_iff` |
| all that follows the path | `LintHost.EntryTail` | `LintHost.entryTail_iff_read?` |

That a grammar decides a line at all rests on its path: a parser holds two spellings of its
file, and a line that could be read after either of them would have two meanings. For an
absolute file this does not happen (`LintHost.ReportParser.starts_unique`), since of two
different spellings one starts with a slash and the other does not.
-/

namespace LintHost

/-! ### How an entry is written -/

/-- **A numeral**: one or more ASCII digits, leading zeros allowed, for a number that fits
into 32 bits. -/
structure Numeral (digits : List Char) (n : Nat) : Prop where
  nonempty : digits ≠ []
  isDigit : ∀ c ∈ digits, c.isDigit = true
  value : Nat.ofDigitChars 10 digits 0 = n
  fits : n ≤ 4294967295

/-- How a column stands in a line: not at all, or as a numeral and a colon. -/
inductive ColumnText : Option Nat → List Char → Prop
  /-- The column is left out. -/
  | absent : ColumnText none []
  /-- The column is given. -/
  | given {digits : List Char} {n : Nat} (h : Numeral digits n) :
      ColumnText (some n) (digits ++ [':'])

/-- The label that a report uses for a severity. -/
def Severity.label : Severity → String
  | .error => "error"
  | .warning => "warning"
  | .info => "note"

/-- **What follows the path in an entry**: a colon, the line counted from 1, a colon, perhaps
a column, a blank, a label, a colon, a blank, and a message without a line feed. -/
inductive EntryTail : List Char → ReportEntry → Prop
  /-- The parts in their order. -/
  | parts {digits columnText message : List Char} {line : Nat} {column : Option Nat}
      {severity : Severity} (hline : Numeral digits (line + 1))
      (hcolumn : ColumnText column columnText) (hmessage : '\n' ∉ message) :
      EntryTail (':' :: digits ++ ':' :: columnText ++ ' ' :: severity.label.toList ++
          ':' :: ' ' :: message)
        ⟨line, column, severity, String.ofList message⟩

/-! ### Looking through alternatives -/

/-- Where all alternatives but one are refused, trying them in order finds that one. -/
theorem findSome?_eq_some_of_only {α β : Type} {f : α → Option β} {l : List α} {a : α} {b : β}
    (ha : a ∈ l) (hfound : f a = some b) (hother : ∀ a' ∈ l, a' ≠ a → f a' = none) :
    l.findSome? f = some b := by
  cases hl : l.findSome? f with
  | none => exact absurd (List.findSome?_eq_none_iff.mp hl a ha) (by simp [hfound])
  | some b' =>
    obtain ⟨a', ha', hfound'⟩ := List.exists_of_findSome?_eq_some hl
    rcases Classical.em (a' = a) with rfl | hne
    · rw [← hfound', hfound]
    · rw [hother a' ha' hne] at hfound'
      simp at hfound'

/-! ### Reading a numeral -/

/-- The digits that are read are those of a numeral, and every numeral is read. -/
theorem numeral_iff_number? {cs : List Char} {n : Nat} :
    Numeral cs n ↔ ReportEntry.number? cs = some n := by
  rw [ReportEntry.number?]
  constructor
  · rintro ⟨hne, hdigits, rfl, hfits⟩
    rw [if_pos ⟨hne, List.all_eq_true.mpr hdigits⟩, if_pos]
    simpa [ReportEntry.numberLimit] using Nat.lt_succ_of_le hfits
  · intro h
    split at h
    · next hcs =>
      rw [Option.ite_none_right_eq_some, ReportEntry.numberLimit] at h
      obtain ⟨hlt, hn⟩ := h
      obtain rfl := Option.some.inj hn
      exact ⟨hcs.1, List.all_eq_true.mp hcs.2, rfl, Nat.le_of_lt_succ hlt⟩
    · simp at h

/-- A run of digits and a colon are read off the start of a text exactly where they stand
there: digits are read greedily, and a colon is no digit. -/
theorem digitsThenColon_eq_some_iff {cs digits rest : List Char} :
    ReportEntry.digitsThenColon cs = some (digits, rest) ↔
      cs = digits ++ ':' :: rest ∧ ∀ c ∈ digits, c.isDigit = true := by
  have hcolon : ¬Char.isDigit ':' = true := by decide
  constructor
  · intro h
    have hcut := List.takeWhile_append_dropWhile (p := Char.isDigit) (l := cs)
    rw [ReportEntry.digitsThenColon] at h
    split at h
    · next rest' hdrop =>
      obtain ⟨rfl, rfl⟩ := Prod.mk.inj (Option.some.inj h)
      rw [hdrop] at hcut
      exact ⟨hcut.symm, fun c hc => List.all_eq_true.mp List.all_takeWhile c hc⟩
    · simp at h
  · rintro ⟨rfl, hdigits⟩
    rw [ReportEntry.digitsThenColon, List.dropWhile_append_of_pos hdigits,
      List.takeWhile_append_of_pos hdigits, List.dropWhile_cons_of_neg hcolon,
      List.takeWhile_cons_of_neg hcolon, List.append_nil]
    rfl

/-! ### Reading a label and a message -/

theorem ofLabel?_eq_some_iff {label : String} {severity : Severity} :
    Severity.ofLabel? label = some severity ↔ label = severity.label := by
  constructor
  · intro h
    unfold Severity.ofLabel? at h
    split at h
    · obtain rfl := Option.some.inj h
      rfl
    · obtain rfl := Option.some.inj h
      rfl
    · obtain rfl := Option.some.inj h
      rfl
    · simp at h
  · rintro rfl
    cases severity <;> rfl

/-- What has to stand before a message: a blank, a label, a colon and a blank. -/
def opening (label : String) : List Char :=
  ' ' :: label.toList ++ [':', ' ']

/-- The message after an opening, if the text starts with that opening and goes on in one
line. -/
def messageAfter? (opening cs : List Char) : Option String :=
  if opening.isPrefixOf cs = true ∧ '\n' ∉ cs.drop opening.length then
    some (String.ofList (cs.drop opening.length))
  else none

theorem messageAfter?_eq_some_iff {opening cs : List Char} {message : String} :
    messageAfter? opening cs = some message ↔
      ∃ text, '\n' ∉ text ∧ message = String.ofList text ∧ cs = opening ++ text := by
  rw [messageAfter?, Option.ite_none_right_eq_some, List.isPrefixOf_iff_prefix]
  constructor
  · rintro ⟨⟨⟨text, rfl⟩, hmessage⟩, h⟩
    rw [List.drop_left] at hmessage h
    exact ⟨text, hmessage, (Option.some.inj h).symm, rfl⟩
  · rintro ⟨text, hmessage, rfl, rfl⟩
    rw [List.drop_left]
    exact ⟨⟨List.prefix_append _ _, hmessage⟩, rfl⟩

/-- The labels are tried one after the other. -/
theorem labelled?_eq (cs : List Char) :
    ReportEntry.labelled? cs = ReportEntry.labels.findSome? fun label =>
      (Severity.ofLabel? label).bind fun severity =>
        (messageAfter? (opening label) cs).map (severity, ·) := by
  refine congrArg (ReportEntry.labels.findSome? ·) (funext fun label => ?_)
  refine congrArg (Severity.ofLabel? label).bind (funext fun severity => ?_)
  rw [messageAfter?, apply_ite (Option.map _)]
  rfl

/-- No text starts with the openings of two labels: these differ in their first letters. -/
theorem messageAfter?_opening_eq_none {severity : Severity} {label : String}
    (hlabel : label ∈ ReportEntry.labels) (hne : label ≠ severity.label) (text : List Char) :
    messageAfter? (opening label) (opening severity.label ++ text) = none := by
  rw [messageAfter?, if_neg]
  rintro ⟨hstarts, -⟩
  revert hstarts hne
  simp only [ReportEntry.labels, List.mem_cons, List.not_mem_nil, or_false] at hlabel
  rcases hlabel with rfl | rfl | rfl <;> cases severity <;>
    simp [opening, Severity.label]

/-- **A label and a message** are read exactly where they are written. -/
theorem labelled?_eq_some_iff {cs : List Char} {severity : Severity} {message : String} :
    ReportEntry.labelled? cs = some (severity, message) ↔
      ∃ text, '\n' ∉ text ∧ message = String.ofList text ∧ cs = opening severity.label ++ text := by
  rw [labelled?_eq]
  constructor
  · intro h
    obtain ⟨label, -, h⟩ := List.exists_of_findSome?_eq_some h
    obtain ⟨severity', hseverity, h⟩ := Option.bind_eq_some_iff.mp h
    obtain ⟨message', hmessage, h⟩ := Option.map_eq_some_iff.mp h
    obtain ⟨rfl, rfl⟩ := Prod.mk.inj h
    rw [ofLabel?_eq_some_iff.mp hseverity] at hmessage
    exact messageAfter?_eq_some_iff.mp hmessage
  · rintro ⟨text, hmessage, rfl, rfl⟩
    have hlabel : severity.label ∈ ReportEntry.labels := by cases severity <;> decide
    refine findSome?_eq_some_of_only hlabel ?_ fun label hlabel hne => ?_
    · rw [ofLabel?_eq_some_iff.mpr rfl, Option.bind_some,
        messageAfter?_eq_some_iff.mpr ⟨text, hmessage, rfl, rfl⟩, Option.map_some]
    · cases Severity.ofLabel? label with
      | none => rfl
      | some severity' =>
        rw [Option.bind_some, messageAfter?_opening_eq_none hlabel hne, Option.map_none]

/-! ### Reading what follows the path -/

/-- What follows the line number: perhaps a column, and then the label and the message. -/
def afterLine? (line : Nat) (rest : List Char) : Option ReportEntry :=
  match ReportEntry.digitsThenColon rest with
  | some (digits, rest) =>
    (ReportEntry.number? digits).bind fun column =>
      (ReportEntry.labelled? rest).bind fun (severity, message) =>
        some ⟨line, some column, severity, message⟩
  | none =>
    (ReportEntry.labelled? rest).bind fun (severity, message) =>
      some ⟨line, none, severity, message⟩

theorem read?_colon (rest : List Char) :
    ReportEntry.read? (':' :: rest) =
      (ReportEntry.digitsThenColon rest).bind fun (digits, rest) =>
        (ReportEntry.number? digits).bind fun n =>
          if n = 0 then none else afterLine? (n - 1) rest := rfl

/-- Whether a column is given is seen from the colon after its digits: an opening starts with
a blank, which is no digit. -/
theorem afterLine?_eq_some_iff {line : Nat} {rest : List Char} {entry : ReportEntry} :
    afterLine? line rest = some entry ↔
      ∃ column columnText severity text, ColumnText column columnText ∧ '\n' ∉ text ∧
        rest = columnText ++ opening severity.label ++ text ∧
        entry = ⟨line, column, severity, String.ofList text⟩ := by
  constructor
  · intro h
    rw [afterLine?] at h
    split at h
    · next digits rest hdigits =>
      obtain ⟨rfl, hdigits⟩ := digitsThenColon_eq_some_iff.mp hdigits
      obtain ⟨column, hcolumn, hrest⟩ := Option.bind_eq_some_iff.mp h
      obtain ⟨⟨severity, message⟩, hlabelled, hentry⟩ := Option.bind_eq_some_iff.mp hrest
      obtain ⟨text, htext, rfl, rfl⟩ := labelled?_eq_some_iff.mp hlabelled
      exact ⟨some column, digits ++ [':'], severity, text,
        .given (numeral_iff_number?.mpr hcolumn), htext, by simp, (Option.some.inj hentry).symm⟩
    · obtain ⟨⟨severity, message⟩, hlabelled, hentry⟩ := Option.bind_eq_some_iff.mp h
      obtain ⟨text, htext, rfl, rfl⟩ := labelled?_eq_some_iff.mp hlabelled
      exact ⟨none, [], severity, text, .absent, htext, rfl, (Option.some.inj hentry).symm⟩
  · rintro ⟨column, columnText, severity, text, hcolumn, htext, rfl, rfl⟩
    have hlabelled : ReportEntry.labelled? (opening severity.label ++ text) =
        some (severity, String.ofList text) :=
      labelled?_eq_some_iff.mpr ⟨text, htext, rfl, rfl⟩
    cases hcolumn with
    | absent =>
      have hblank : ReportEntry.digitsThenColon ([] ++ opening severity.label ++ text) = none := rfl
      rw [afterLine?, hblank, List.nil_append, hlabelled, Option.bind_some]
    | @given digits n hn =>
      have hdigits : ReportEntry.digitsThenColon
          (digits ++ [':'] ++ opening severity.label ++ text) =
            some (digits, opening severity.label ++ text) :=
        digitsThenColon_eq_some_iff.mpr ⟨by simp, hn.isDigit⟩
      rw [afterLine?, hdigits]
      simp only [numeral_iff_number?.mp hn, hlabelled, Option.bind_some]

/-- **What follows the path is read exactly where it is written.** -/
theorem entryTail_iff_read? {tail : List Char} {entry : ReportEntry} :
    EntryTail tail entry ↔ ReportEntry.read? tail = some entry := by
  constructor
  · rintro ⟨hline, hcolumn, hmessage⟩
    rename_i digits columnText message line column severity
    have hdigits : ReportEntry.digitsThenColon
        (digits ++ ':' :: (columnText ++ opening severity.label ++ message)) =
        some (digits, columnText ++ opening severity.label ++ message) :=
      digitsThenColon_eq_some_iff.mpr ⟨rfl, hline.isDigit⟩
    have hafter : afterLine? line (columnText ++ opening severity.label ++ message) =
        some ⟨line, column, severity, String.ofList message⟩ :=
      afterLine?_eq_some_iff.mpr
        ⟨column, columnText, severity, message, hcolumn, hmessage, rfl, rfl⟩
    calc ReportEntry.read? (':' :: digits ++ ':' :: columnText ++ ' ' :: severity.label.toList ++
          ':' :: ' ' :: message)
        = ReportEntry.read?
            (':' :: (digits ++ ':' :: (columnText ++ opening severity.label ++ message))) := by
          simp [opening]
      _ = afterLine? (line + 1 - 1) (columnText ++ opening severity.label ++ message) := by
          rw [read?_colon, hdigits]
          simp only [Option.bind_some, numeral_iff_number?.mp hline, if_neg (Nat.succ_ne_zero line)]
      _ = some ⟨line, column, severity, String.ofList message⟩ := hafter
  · intro h
    cases tail with
    | nil => simp [ReportEntry.read?] at h
    | cons c rest =>
      by_cases hc : c = ':'
      · subst hc
        rw [read?_colon] at h
        obtain ⟨⟨digits, rest⟩, hcut, hread⟩ := Option.bind_eq_some_iff.mp h
        obtain ⟨n, hn, hkept⟩ := Option.bind_eq_some_iff.mp hread
        obtain ⟨hzero, hafter⟩ := Option.ite_none_left_eq_some.mp hkept
        obtain ⟨rfl, -⟩ := digitsThenColon_eq_some_iff.mp hcut
        obtain ⟨column, columnText, severity, text, hcolumn, htext, rfl, rfl⟩ :=
          afterLine?_eq_some_iff.mp hafter
        have hline : Numeral digits (n - 1 + 1) := by
          rw [Nat.sub_add_cancel (Nat.pos_of_ne_zero hzero)]
          exact numeral_iff_number?.mpr hn
        have hparts : EntryTail _ ⟨n - 1, column, severity, String.ofList text⟩ :=
          .parts hline hcolumn htext
        simpa [opening] using hparts
      · simp [ReportEntry.read?, hc] at h

/-! ### Which file a line is about -/

/-- A line names a file by a spelling if it starts with the spelling and a colon. -/
def Names (spelling : String) (line : List Char) : Prop :=
  ∃ rest, line = spelling.toList ++ ':' :: rest

namespace ReportParser

/-- **The spellings that a parser holds**: the way from the directory to the file, unless
there is none or it is empty, and the file as it was given. -/
theorem mem_spellings_make {file directory : Path} {p : String} :
    p ∈ (make file directory).spellings ↔
      (p ≠ "" ∧ ∃ r, file.relativeTo? directory = some r ∧ r.text = p) ∨ p = file.text := by
  have hrelative : p ∈ ((file.relativeTo? directory).map (·.text)).toList.filter (· ≠ "") ↔
      p ≠ "" ∧ ∃ r, file.relativeTo? directory = some r ∧ r.text = p := by
    rw [List.mem_filter, Option.mem_toList, Option.map_eq_some_iff,
      decide_eq_true_eq, and_comm]
  rw [make, ← hrelative]
  simp only
  split
  · next hcontains =>
    refine ⟨Or.inl, fun h => h.elim id ?_⟩
    rintro rfl
    exact List.contains_iff_mem.mp hcontains
  · rw [List.mem_append, List.mem_singleton]

/-- **No line names an absolute file by two spellings**: one of them starts with a slash, and
the way from a directory does not. -/
theorem starts_unique {file directory : Path} (hfile : file.isAbsolute = true)
    {p q : String} (hp : p ∈ (make file directory).spellings)
    (hq : q ∈ (make file directory).spellings) {cs ds : List Char}
    (h : p.toList ++ cs = q.toList ++ ds) : p = q := by
  rcases mem_spellings_make.mp hp with ⟨hne, r, hr, rfl⟩ | rfl <;>
    rcases mem_spellings_make.mp hq with ⟨hne', r', hr', rfl⟩ | rfl
  · rw [hr] at hr'
    rw [Option.some.inj hr']
  · rcases Path.eq_or_not_isAbsolute_of_relativeTo? hfile hr with rfl | hrelative
    · rfl
    · exact absurd h.symm (Path.not_starts_with_both hfile hrelative hne)
  · rcases Path.eq_or_not_isAbsolute_of_relativeTo? hfile hr' with rfl | hrelative
    · rfl
    · exact absurd h (Path.not_starts_with_both hfile hrelative hne')
  · rfl

/-- What follows a spelling, if a colon does. -/
def after? (line : List Char) (spelling : String) : Option (List Char) :=
  if spelling.toList.isPrefixOf line = true ∧
      (line.drop spelling.toList.length).head? = some ':' then
    some (line.drop spelling.toList.length)
  else none

theorem tail?_eq (parser : ReportParser) (line : List Char) :
    parser.tail? line = parser.spellings.findSome? (after? line) := rfl

theorem after?_eq_some_iff {line tail : List Char} {spelling : String} :
    after? line spelling = some tail ↔
      line = spelling.toList ++ tail ∧ tail.head? = some ':' := by
  rw [after?, Option.ite_none_right_eq_some, List.isPrefixOf_iff_prefix]
  constructor
  · rintro ⟨⟨⟨rest, rfl⟩, hcolon⟩, h⟩
    rw [List.drop_left] at hcolon h
    obtain rfl := Option.some.inj h
    exact ⟨rfl, hcolon⟩
  · rintro ⟨rfl, hcolon⟩
    rw [List.drop_left]
    exact ⟨⟨List.prefix_append _ _, hcolon⟩, rfl⟩

theorem names_iff {line : List Char} {spelling : String} :
    Names spelling line ↔ ∃ tail, line = spelling.toList ++ tail ∧ tail.head? = some ':' := by
  constructor
  · rintro ⟨rest, rfl⟩
    exact ⟨':' :: rest, rfl, rfl⟩
  · rintro ⟨tail, rfl, hcolon⟩
    obtain ⟨rest, rfl⟩ := List.head?_eq_some_iff.mp hcolon
    exact ⟨rest, rfl⟩

/-- A line has no tail exactly if it names the file by none of the spellings. -/
theorem tail?_eq_none_iff {parser : ReportParser} {line : List Char} :
    parser.tail? line = none ↔ ∀ p ∈ parser.spellings, ¬Names p line := by
  rw [tail?_eq, List.findSome?_eq_none_iff]
  refine forall₂_congr fun p _ => ?_
  rw [Option.eq_none_iff_forall_ne_some, names_iff, not_exists]
  exact forall_congr' fun tail => not_congr after?_eq_some_iff

/-- The tail of a line is what follows the one spelling by which it names the file. -/
theorem tail?_eq_some_iff {file directory : Path} (hfile : file.isAbsolute = true)
    {line tail : List Char} :
    (make file directory).tail? line = some tail ↔
      ∃ p ∈ (make file directory).spellings, line = p.toList ++ tail ∧ tail.head? = some ':' := by
  rw [tail?_eq]
  constructor
  · intro h
    obtain ⟨p, hp, hafter⟩ := List.exists_of_findSome?_eq_some h
    exact ⟨p, hp, after?_eq_some_iff.mp hafter⟩
  · rintro ⟨p, hp, hline⟩
    refine findSome?_eq_some_of_only hp (after?_eq_some_iff.mpr hline) fun q hq hne => ?_
    rw [Option.eq_none_iff_forall_ne_some]
    intro tail' htail'
    have hsame := (after?_eq_some_iff.mp htail').1.symm.trans hline.1
    exact hne (starts_unique hfile hq hp hsame)

/-! ### What a line is -/

theorem classify_eq_foreign_iff {parser : ReportParser} {line : List Char} :
    parser.classify line = .foreign ↔ ∀ p ∈ parser.spellings, ¬Names p line := by
  rw [← tail?_eq_none_iff, classify]
  cases parser.tail? line with
  | none => simp
  | some tail =>
    simp only [reduceCtorEq, iff_false]
    split <;> simp

theorem classify_eq_entry_iff {parser : ReportParser} {line : List Char} {entry : ReportEntry} :
    parser.classify line = .entry entry ↔
      ∃ tail, parser.tail? line = some tail ∧ EntryTail tail entry := by
  rw [classify]
  cases parser.tail? line with
  | none => simp
  | some tail =>
    simp only [Option.some.injEq, exists_eq_left', entryTail_iff_read?]
    cases ReportEntry.read? tail <;> simp

theorem classify_eq_malformed_iff {parser : ReportParser} {line : List Char} {rest : String} :
    parser.classify line = .malformed rest ↔
      ∃ tail, parser.tail? line = some tail ∧ rest = String.ofList tail ∧
        ∀ entry, ¬EntryTail tail entry := by
  rw [classify]
  cases parser.tail? line with
  | none => simp
  | some tail =>
    simp only [Option.some.injEq, exists_eq_left', entryTail_iff_read?]
    cases ReportEntry.read? tail <;> simp [eq_comm]

/-- **The grammar of a report.** For an absolute file, a line names the file by at most one of
the spellings of its parser, and what the line is depends on nothing else than what follows
that spelling: a line that names the file by none is foreign, one whose rest is written as
an entry is that entry, and any other is malformed and keeps all that follows the spelling. -/
theorem classify_by_grammar {file : Path} (hfile : file.isAbsolute = true) (directory : Path)
    (line : List Char) :
    (∀ p, p ∈ (make file directory).spellings ↔
      (p ≠ "" ∧ ∃ r, file.relativeTo? directory = some r ∧ r.text = p) ∨ p = file.text) ∧
    (∀ p ∈ (make file directory).spellings, ∀ q ∈ (make file directory).spellings,
      Names p line → Names q line → p = q) ∧
    ((make file directory).classify line = .foreign ↔
      ∀ p ∈ (make file directory).spellings, ¬Names p line) ∧
    (∀ entry, (make file directory).classify line = .entry entry ↔
      ∃ p ∈ (make file directory).spellings, ∃ tail,
        line = p.toList ++ tail ∧ EntryTail tail entry) ∧
    (∀ rest, (make file directory).classify line = .malformed rest ↔
      ∃ p ∈ (make file directory).spellings, Names p line ∧ line = p.toList ++ rest.toList ∧
        ∀ entry, ¬EntryTail rest.toList entry) := by
  refine ⟨fun p => mem_spellings_make, ?_, classify_eq_foreign_iff, fun entry => ?_, fun rest => ?_⟩
  · rintro p hp q hq ⟨cs, rfl⟩ ⟨ds, hds⟩
    exact starts_unique hfile hp hq hds
  · -- A tail that is an entry starts with a colon, so the spelling before it names the file.
    rw [classify_eq_entry_iff]
    constructor
    · rintro ⟨tail, htail, hentry⟩
      obtain ⟨p, hp, hline, -⟩ := (tail?_eq_some_iff hfile).mp htail
      exact ⟨p, hp, tail, hline, hentry⟩
    · rintro ⟨p, hp, tail, hline, hentry⟩
      refine ⟨tail, (tail?_eq_some_iff hfile).mpr ⟨p, hp, hline, ?_⟩, hentry⟩
      cases hentry
      rfl
  · rw [classify_eq_malformed_iff]
    constructor
    · rintro ⟨tail, htail, rfl, hnone⟩
      obtain ⟨p, hp, hline⟩ := (tail?_eq_some_iff hfile).mp htail
      rw [String.toList_ofList]
      exact ⟨p, hp, names_iff.mpr ⟨tail, hline⟩, hline.1, hnone⟩
    · rintro ⟨p, hp, hnames, hline, hnone⟩
      obtain ⟨tail, htail, hcolon⟩ := names_iff.mp hnames
      obtain rfl : tail = rest.toList := List.append_cancel_left (htail.symm.trans hline)
      exact ⟨rest.toList, (tail?_eq_some_iff hfile).mpr ⟨p, hp, hline, hcolon⟩,
        String.ofList_toList.symm, hnone⟩

/-- The same at a line with the relative spelling and leading zeros in its line number. -/
theorem classify_by_grammar_leading_zeros :
    (Path.mk "/w/a.py").isAbsolute = true ∧
    (make ⟨"/w/a.py"⟩ ⟨"/w"⟩).classify "a.py:0012:5: note: x".toList =
      .entry ⟨11, some 5, .info, "x"⟩ := by
  have hfile : (Path.mk "/w/a.py").isAbsolute = true := by decide
  have hspelling : "a.py" ∈ (make ⟨"/w/a.py"⟩ ⟨"/w"⟩).spellings := by decide +kernel
  have htail : EntryTail ":0012:5: note: x".toList ⟨11, some 5, .info, "x"⟩ :=
    entryTail_iff_read?.mpr (by decide +kernel)
  have hgrammar := classify_by_grammar hfile ⟨"/w"⟩ "a.py:0012:5: note: x".toList
  exact ⟨hfile, (hgrammar.2.2.2.1 _).mpr ⟨"a.py", hspelling, _, by decide, htail⟩⟩

end ReportParser

end LintHost
