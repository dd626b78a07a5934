import LintHost.Proofs.Json.Grammar
import LintHost.Rendering
import LintHost.Server.Params
import Mathlib.Tactic.IntervalCases
import Mathlib.Tactic.SplitIfs

/-!
# The JSON report decodes to its diagnostics

The JSON form of a report is put together from pieces of text: a flag tells whether a comma is
due, and texts are escaped character by character. This file derives the whole of it in the
grammar of `LintHost.Json.Form`, and reads the diagnostics back from it.

| what is written | why it is what it should be |
|---|---|
| the escaped form of a text | `LintHost.JsonArray.textForm_escape` |
| a number | `LintHost.Json.form_repr` |
| the object of a diagnostic | `LintHost.JsonArray.form_object` |
| objects with commas between them | `LintHost.JsonArray.form_objects` |

The writer is driven by calls, each of which emits one diagnostic or several. How the diagnostics
are spread over the calls makes no difference (`LintHost.JsonArray.foldl_perform`), so
`LintHost.JsonArray.isDocument_array` is about the list of them alone.
-/

namespace LintHost

/-! ### Diagnostics as values -/

namespace Position

/-- The value of a position: a pair of numbers. -/
def toJson (p : Position) : Json :=
  .array [.ofNat p.line, .ofNat p.character]

/-- Both numbers fit into 32 bits. -/
def IsWord (p : Position) : Prop :=
  p.line < 0x100000000 ∧ p.character < 0x100000000

end Position

namespace Diagnostic

/-- **The value of a diagnostic**: an object with seven members, where a column or a description
that is missing is null. -/
def toJson (d : Diagnostic) : Json :=
  .object
    [("severity", .string d.severity.word),
     ("file", .string d.file.text),
     ("line", .ofNat d.line),
     ("column", d.column.elim .null .ofNat),
     ("range", .object [("start", d.range.start.toJson), ("end", d.range.stop.toJson)]),
     ("description", d.description.elim .null .string),
     ("message", .string d.message)]

/-- All numbers of the diagnostic fit into 32 bits. -/
structure IsWord (d : Diagnostic) : Prop where
  line : d.line < 0x100000000
  column : ∀ column ∈ d.column, column < 0x100000000
  start : d.range.start.IsWord
  stop : d.range.stop.IsWord

end Diagnostic

namespace Json

/-! ### Numbers as they are written -/

/-- A further digit makes no number smaller. -/
theorem le_ofDigitChars (digits : List Char) (word : Nat) :
    word ≤ Nat.ofDigitChars 10 digits word := by
  induction digits generalizing word with
  | nil => exact Nat.le_refl _
  | cons d digits ih =>
    rw [Nat.ofDigitChars_cons]
    have := ih (10 * word + (d.toNat - '0'.toNat))
    omega

/-- Digits of a number that fits into 64 bits are all taken into the word. -/
theorem appendDigits_eq (digits : List Char) (word : Nat)
    (h : Nat.ofDigitChars 10 digits word < 0x10000000000000000) :
    JsonNumber.appendDigits word digits = (Nat.ofDigitChars 10 digits word, []) := by
  induction digits generalizing word with
  | nil => rfl
  | cons d digits ih =>
    rw [Nat.ofDigitChars_cons, Nat.mul_comm] at h ⊢
    have hnext := Nat.lt_of_le_of_lt (le_ofDigitChars _ _) h
    rw [JsonNumber.appendDigits]
    simp only [if_pos hnext]
    exact ih _ h

/-- The digits of a number other than zero do not start with a zero. -/
theorem exists_toDigits_cons {n : Nat} (h : n ≠ 0) :
    ∃ d digits, Nat.toDigits 10 n = d :: digits ∧ d ≠ '0' := by
  induction n using Nat.strongRecOn with
  | ind n ih =>
    rcases Nat.lt_or_ge n 10 with hlt | hge
    · refine ⟨Nat.digitChar n, [], Nat.toDigits_of_lt_base hlt, ?_⟩
      interval_cases n <;> simp_all
    · obtain ⟨d, digits, hdigits, hd⟩ := ih (n / 10) (by omega) (by omega)
      rw [Nat.toDigits_of_base_le (by decide) hge, hdigits]
      exact ⟨d, _, rfl, hd⟩

theorem wholeForm_toDigits (n : Nat) : WholeForm (Nat.toDigits 10 n) := by
  rcases Nat.eq_zero_or_pos n with rfl | hpos
  · exact .zero
  · obtain ⟨d, digits, hdigits, hd⟩ := exists_toDigits_cons (Nat.pos_iff_ne_zero.mp hpos)
    rw [hdigits]
    refine .digits hd fun c hc => ?_
    rw [← hdigits] at hc
    exact Nat.isDigit_of_mem_toDigits (by decide) (by decide) hc

/-- **A number is written as itself**, if it fits into 64 bits. -/
theorem form_repr {n : Nat} (h : n < 0x10000000000000000) :
    Form (Nat.repr n).toList (.value (.ofNat n)) := by
  have hword := appendDigits_eq (Nat.toDigits 10 n) 0
  rw [Nat.ofDigitChars_ten_toDigits] at hword
  have hvalue : JsonNumber.ofDigits? false (Nat.toDigits 10 n) [] none = some (.whole n) := by
    have hfits : JsonNumber.fits n = true := by
      simp only [JsonNumber.fits, Bool.and_eq_true, decide_eq_true_eq]
      omega
    simp [JsonNumber.ofDigits?, hword h, hfits]
  have hparts := NumberForm.parts .absent (wholeForm_toDigits n) .absent .absent hvalue
  rw [Nat.repr_eq_ofList_toDigits, String.toList_ofList, Json.ofNat]
  simpa using Form.number hparts

end Json

namespace JsonArray

open Json (Form TextForm IsSpace IsDocument)

/-! ### Texts as they are written -/

theorem hexValue?_hexDigit {n : Nat} (h : n < 16) : Json.hexValue? (hexDigit n) = some n := by
  interval_cases n <;> decide

/-- Four digits are read as the number that they were written for. -/
theorem hex4?_hex4 {n : Nat} (h : n < 0x10000) :
    Json.hex4? (hexDigit (n / 4096 % 16)) (hexDigit (n / 256 % 16)) (hexDigit (n / 16 % 16))
      (hexDigit (n % 16)) = some n := by
  have hdigit : ∀ k, Json.hexValue? (hexDigit (k % 16)) = some (k % 16) :=
    fun k => hexValue?_hexDigit (Nat.mod_lt k (by decide))
  simp only [Json.hex4?, hdigit, Option.bind_eq_bind, Option.bind_some, Option.some.injEq]
  omega

/-- **An escaped text stands for the text.** What has to be escaped is escaped, since all
characters below the blank are controls. -/
theorem textForm_escape (text : List Char) : TextForm (text.flatMap escapeChar) text := by
  induction text with
  | nil => exact .empty
  | cons c text ih =>
    rw [List.flatMap_cons, escapeChar]
    split_ifs with hquote hescape hline hreturn htab hcontrol
    · subst hquote
      exact .escaped rfl ih
    · subst hescape
      exact .escaped rfl ih
    · subst hline
      exact .escaped rfl ih
    · subst hreturn
      exact .escaped rfl ih
    · subst htab
      exact .escaped rfl ih
    · have hlt : c.toNat < 0xa0 := by
        simp only [isControl, Bool.or_eq_true, Bool.and_eq_true, decide_eq_true_eq] at hcontrol
        omega
      have hform := TextForm.codePoint (hex4?_hex4 (n := c.toNat) (by omega)) (by omega) ih
      rwa [Char.ofNat_toNat] at hform
    · have hge : 0x20 ≤ c.toNat := by
        simp only [isControl, Bool.or_eq_true, decide_eq_true_eq, not_or] at hcontrol
        omega
      exact .unescaped hge hquote hescape ih

theorem form_quoted (text : String) : Form (quoted text).toList (.value (.string text)) := by
  have hform := Form.string (textForm_escape text.toList)
  rw [String.ofList_toList] at hform
  simpa [quoted, escape] using hform

/-! ### Objects -/

theorem isSpace_of_all (cs : List Char) (h : cs.all Json.isSpace = true) : IsSpace cs :=
  List.all_eq_true.mp h

/-- A key without quotes, backslashes and controls stands for itself. -/
theorem textForm_key (key : List Char)
    (h : key.all (fun c => 0x20 ≤ c.toNat && c != '"' && c != '\\') = true) :
    TextForm key key := by
  induction key with
  | nil => exact .empty
  | cons c key ih =>
    simp only [List.all_cons, Bool.and_eq_true, decide_eq_true_eq, bne_iff_ne] at h
    exact .unescaped h.1.1.1 h.1.1.2 h.1.2 (ih h.2)

/-- A position is written as a pair. -/
theorem form_pair {p : Position} (h : p.IsWord) : Form (pair p).toList (.value p.toJson) := by
  have hitems := Form.items (isSpace_of_all [] rfl)
    (Json.form_repr (n := p.line) (by have := h.1; omega)) (isSpace_of_all [] rfl)
    (Form.item (isSpace_of_all [' '] rfl)
      (Json.form_repr (n := p.character) (by have := h.2; omega))
      (isSpace_of_all [] rfl))
  simpa [pair, Position.toJson] using Form.array hitems

/-- A member of an object: its key, the text of its value, and the value. -/
structure Field where
  key : String
  text : String
  value : Json

namespace Field

/-- The text of the member on a line of its own. -/
def line (f : Field) : String :=
  member f.key f.text

/-- The key and the value. -/
def entry (f : Field) : String × Json :=
  (f.key, f.value)

/-- The key may stand between quotes as it is, and the text is one of the value. -/
structure IsForm (f : Field) : Prop where
  key : TextForm f.key.toList f.key.toList
  text : Form f.text.toList (.value f.value)

end Field

/-- **Members on lines of their own** are the members of an object. -/
theorem form_lines {fields : List Field} (hne : fields ≠ []) (h : ∀ f ∈ fields, f.IsForm) :
    Form ('\n' :: ((",\n".intercalate (fields.map Field.line)).toList ++ "\n  ".toList))
      (.members (fields.map Field.entry)) := by
  have hindent : IsSpace "\n    ".toList := isSpace_of_all _ rfl
  have hnone : IsSpace [] := isSpace_of_all _ rfl
  have hblank : IsSpace [' '] := isSpace_of_all _ rfl
  induction fields with
  | nil => exact absurd rfl hne
  | cons f fields ih =>
    have hf := h f List.mem_cons_self
    cases fields with
    | nil =>
      have hmember := Form.member hindent hf.key hnone hblank hf.text
        (isSpace_of_all ("\n  ".toList) rfl)
      simpa [Field.line, Field.entry, member] using hmember
    | cons g fields =>
      have hmore := ih (List.cons_ne_nil _ _) fun f hf => h f (List.mem_cons_of_mem _ hf)
      have hmembers := Form.members hindent hf.key hnone hblank hf.text hnone hmore
      simpa [Field.line, Field.entry, member, String.intercalate_cons_cons] using hmembers

/-- The seven members of a diagnostic's object. -/
def fields (d : Diagnostic) : List Field :=
  [⟨"severity", "\"" ++ d.severity.word ++ "\"", .string d.severity.word⟩,
   ⟨"file", quoted d.file.text, .string d.file.text⟩,
   ⟨"line", Nat.repr d.line, .ofNat d.line⟩,
   ⟨"column", orNull Nat.repr d.column, d.column.elim .null .ofNat⟩,
   ⟨"range", "\x7b\"start\": " ++ pair d.range.start ++ ", \"end\": " ++ pair d.range.stop ++
      "\x7d",
    .object [("start", d.range.start.toJson), ("end", d.range.stop.toJson)]⟩,
   ⟨"description", orNull quoted d.description, d.description.elim .null .string⟩,
   ⟨"message", quoted d.message, .string d.message⟩]

theorem members_eq (d : Diagnostic) : members d = (fields d).map Field.line := rfl

theorem toJson_eq (d : Diagnostic) : d.toJson = .object ((fields d).map Field.entry) := rfl

/-- The range of a diagnostic is written as an object on one line. -/
theorem form_range {start stop : Position} (hstart : start.IsWord) (hstop : stop.IsWord) :
    Form ("\x7b\"start\": " ++ pair start ++ ", \"end\": " ++ pair stop ++ "\x7d").toList
      (.value (.object [("start", start.toJson), ("end", stop.toJson)])) := by
  have hnone : IsSpace [] := isSpace_of_all _ rfl
  have hblank : IsSpace [' '] := isSpace_of_all _ rfl
  have hmembers := Form.members hnone (textForm_key "start".toList (by decide)) hnone
    hblank (form_pair hstart) hnone
    (Form.member hblank (textForm_key "end".toList (by decide)) hnone hblank
      (form_pair hstop) hnone)
  simpa using Form.object hmembers

/-- The keys of a diagnostic's object stand between quotes as they are. -/
theorem textForm_key_of_mem_fields {d : Diagnostic} {f : Field} (hf : f ∈ fields d) :
    TextForm f.key.toList f.key.toList := by
  have hkeys : ∀ key ∈ ["severity", "file", "line", "column", "range", "description", "message"],
      (key.toList.all fun c => 0x20 ≤ c.toNat && c != '"' && c != '\\') = true := by decide
  exact textForm_key _ (hkeys f.key (List.mem_map_of_mem (f := Field.key) hf))

theorem form_severity (severity : Severity) :
    Form ("\"" ++ severity.word ++ "\"").toList (.value (.string severity.word)) := by
  have hword := Form.string (textForm_key severity.word.toList
    (by cases severity <;> decide))
  rw [String.ofList_toList] at hword
  simpa using hword

/-- Each member of a diagnostic's object has a text of its value. -/
theorem isForm_of_mem_fields {d : Diagnostic} (h : d.IsWord) {f : Field} (hf : f ∈ fields d) :
    f.IsForm := by
  refine ⟨textForm_key_of_mem_fields hf, ?_⟩
  simp only [fields, List.mem_cons, List.not_mem_nil, or_false] at hf
  rcases hf with rfl | rfl | rfl | rfl | rfl | rfl | rfl
  · exact form_severity d.severity
  · exact form_quoted d.file.text
  · exact Json.form_repr (by have := h.line; omega)
  · cases hcolumn : d.column with
    | none => exact .null
    | some column => exact Json.form_repr (by have := h.column column hcolumn; omega)
  · exact form_range h.start h.stop
  · cases d.description with
    | none => exact .null
    | some description => exact form_quoted description
  · exact form_quoted d.message

/-- **The object of a diagnostic** is, after its indentation, a text of the diagnostic. -/
theorem form_object {d : Diagnostic} (h : d.IsWord) :
    ∃ cs, (object d).toList = ' ' :: ' ' :: cs ∧ Form cs (.value d.toJson) := by
  have hne : fields d ≠ [] := List.cons_ne_nil _ _
  have hform := Form.object (form_lines hne fun f => isForm_of_mem_fields h)
  rw [← toJson_eq, ← members_eq] at hform
  exact ⟨_, by simp [object], hform⟩

/-- Objects with a comma and a line feed between them are the items of an array. -/
theorem form_objects {ds : List Diagnostic} (hne : ds ≠ []) (h : ∀ d ∈ ds, d.IsWord) :
    Form ('\n' :: ((",\n".intercalate (ds.map object)).toList ++ ['\n']))
      (.items (ds.map Diagnostic.toJson)) := by
  have hindent : IsSpace ['\n', ' ', ' '] := isSpace_of_all _ rfl
  induction ds with
  | nil => exact absurd rfl hne
  | cons d ds ih =>
    obtain ⟨cs, hcs, hobject⟩ := form_object (h d List.mem_cons_self)
    cases ds with
    | nil =>
      have hitem := Form.item hindent hobject (isSpace_of_all ['\n'] rfl)
      simpa [hcs] using hitem
    | cons e ds =>
      have hmore := ih (List.cons_ne_nil _ _) fun d hd => h d (List.mem_cons_of_mem _ hd)
      have hitems := Form.items hindent hobject (isSpace_of_all [] rfl) hmore
      simpa [hcs, String.intercalate_cons_cons] using hitems

/-! ### The writer -/

/-- A call of the writer between its beginning and its end. -/
inductive Call where
  | emit (d : Diagnostic)
  | emitAll (ds : List Diagnostic)

/-- The diagnostics that a call adds. -/
def Call.diagnostics : Call → List Diagnostic
  | .emit d => [d]
  | .emitAll ds => ds

/-- The writer after a call. -/
def perform (w : JsonArray) : Call → JsonArray
  | .emit d => w.emit d
  | .emitAll ds => w.emitAll ds

/-- **The text that some calls write**, from the beginning of the array to its end. -/
def report (calls : List Call) : String :=
  (calls.foldl perform (begin {})).finish.written

/-- How the diagnostics are spread over the calls makes no difference. -/
theorem foldl_perform (calls : List Call) (w : JsonArray) :
    calls.foldl perform w = w.emitAll (calls.flatMap Call.diagnostics) := by
  induction calls generalizing w with
  | nil => rfl
  | cons call calls ih =>
    rw [List.foldl_cons, ih, List.flatMap_cons, emitAll, emitAll, List.foldl_append]
    cases call <;> rfl

/-- What several diagnostics add: each of them its object, and what has to stand before it. -/
theorem emitAll_eq (ds : List Diagnostic) (w : JsonArray) :
    w.emitAll ds =
      ⟨w.isEmpty && ds.isEmpty,
        w.written ++ if ds = [] then ""
          else (if w.isEmpty then "\n" else ",\n") ++ ",\n".intercalate (ds.map object)⟩ := by
  induction ds generalizing w with
  | nil => simp [emitAll]
  | cons d ds ih =>
    rw [emitAll, List.foldl_cons, ← emitAll, ih]
    cases ds with
    | nil => simp [emit, write]
    | cons e ds => simp [emit, write, String.intercalate_cons_cons, String.append_assoc]

/-- The array of some diagnostics. -/
def array (ds : List Diagnostic) : String :=
  if ds = [] then "[]" else "[\n" ++ ",\n".intercalate (ds.map object) ++ "\n]"

/-- The text of some calls is the array of their diagnostics and a line feed. -/
theorem report_eq (calls : List Call) :
    report calls = array (calls.flatMap Call.diagnostics) ++ "\n" := by
  rw [report, foldl_perform, emitAll_eq, array, finish]
  by_cases hds : calls.flatMap Call.diagnostics = []
  · simp [hds, begin, write]
  · have hopen (text : String) : "[" ++ ("\n" ++ text) = "[\n" ++ text :=
      String.append_assoc.symm
    simp [hds, begin, write, String.append_assoc, hopen]

theorem isDocument_array {ds : List Diagnostic} (h : ∀ d ∈ ds, d.IsWord) :
    IsDocument (array ds) (.array (ds.map Diagnostic.toJson)) := by
  have hnone : IsSpace [] := isSpace_of_all _ rfl
  rw [array]
  split
  · next hds =>
    subst hds
    exact ⟨[], _, [], hnone, .emptyArray hnone, hnone, rfl⟩
  · next hds => exact ⟨[], _, [], hnone, .array (form_objects hds h), hnone, by simp⟩

end JsonArray

/-! ### Reading the diagnostics back -/

/-- The natural number that a value is. -/
def Json.nat? (v : Json) : Option Nat :=
  v.int?.bind Int.toNat?

/-- A value that may be null. -/
def Json.orNull? {α : Type} (read : Json → Option α) : Json → Option (Option α)
  | .null => some none
  | v => (read v).map some

/-- The severity with a given word. -/
def Severity.ofWord? : String → Option Severity
  | "error" => some .error
  | "warning" => some .warning
  | "info" => some .info
  | _ => none

/-- The position that a pair of numbers stands for. -/
def Position.ofJson? : Json → Option Position
  | .array [line, character] => do some ⟨← line.nat?, ← character.nat?⟩
  | _ => none

namespace Diagnostic

/-- **The diagnostic that an object stands for**, each member found by its key. -/
def ofJson? (v : Json) : Option Diagnostic := do
  let severity ← Severity.ofWord? (← v.memberText? "severity")
  let file ← v.memberText? "file"
  let line ← (← v.member? "line").nat?
  let column ← (← v.member? "column").orNull? Json.nat?
  let range ← v.member? "range"
  let start ← Position.ofJson? (← range.member? "start")
  let stop ← Position.ofJson? (← range.member? "end")
  let description ← (← v.member? "description").orNull? Json.text?
  let message ← v.memberText? "message"
  some { severity, file := ⟨file⟩, line, column, range := ⟨start, stop⟩, message, description }

theorem ofJson?_toJson (d : Diagnostic) : ofJson? d.toJson = some d := by
  obtain ⟨severity, file, line, column, range, message, description⟩ := d
  cases severity <;> cases column <;> cases description <;> rfl

/-- The diagnostics that an array stands for. -/
def listOfJson? : Json → Option (List Diagnostic)
  | .array items => items.mapM ofJson?
  | _ => none

theorem listOfJson?_toJson (ds : List Diagnostic) :
    listOfJson? (.array (ds.map toJson)) = some ds := by
  rw [listOfJson?, List.mapM_map]
  induction ds with
  | nil => rfl
  | cons d ds ih => simp [ofJson?_toJson, ih]

end Diagnostic

namespace JsonArray

/-- **The JSON report decodes to its diagnostics.** However some diagnostics are spread over the
calls of the writer, the text written is one JSON document and a line feed. The value of the
document is an array with an object for each diagnostic, in order, that has the members of
`Diagnostic.toJson`; from what the reader makes of the text the diagnostics come back; and a
report in JSON form is the same text. -/
theorem decode_report (calls : List Call) (isTerminal : Bool)
    (hword : ∀ d ∈ calls.flatMap Call.diagnostics, d.IsWord) :
    let ds := calls.flatMap Call.diagnostics
    (∃ document, report calls = document ++ "\n" ∧
      Json.IsDocument document (.array (ds.map Diagnostic.toJson)) ∧
      Json.parse? document = some (.array (ds.map Diagnostic.toJson))) ∧
    (Json.parse? (report calls)).bind Diagnostic.listOfJson? = some ds ∧
    renderReport ds .json isTerminal = report calls := by
  intro ds
  have hdocument := isDocument_array hword
  have hreport : Json.IsDocument (report calls) (.array (ds.map Diagnostic.toJson)) := by
    obtain ⟨before, cs, after, hbefore, hvalue, hafter, htext⟩ := hdocument
    refine ⟨before, cs, after ++ ['\n'], hbefore, hvalue, ?_, by simp [report_eq, htext]⟩
    intro c hc
    rcases List.mem_append.mp hc with hc | hc
    · exact hafter c hc
    · rw [List.mem_singleton.mp hc]
      rfl
  refine ⟨⟨array ds, report_eq calls, hdocument, Json.parse?_eq_some_of_isDocument hdocument⟩,
    ?_, ?_⟩
  · rw [Json.parse?_eq_some_of_isDocument hreport, Option.bind_some,
      Diagnostic.listOfJson?_toJson]
  · rw [report, foldl_perform]
    rfl

/-- Two diagnostics in three calls, one of which adds nothing. A quote, a backslash, controls of
both blocks and a character above the first plane come back, as does the greatest line. -/
theorem decode_report_escapes :
    let odd : Diagnostic :=
      { severity := .warning, file := ⟨"/w/\"a\".py"⟩, line := 4294967295, column := some 0
        range := ⟨⟨4294967295, 0⟩, ⟨0, 7⟩⟩, message := "\\ \x00\x7f\u0085😀\n" }
    let plain : Diagnostic :=
      { severity := .info, file := ⟨""⟩, message := "", description := "\t" }
    let calls : List Call := [.emit odd, .emitAll [], .emitAll [plain]]
    (∀ d ∈ calls.flatMap Call.diagnostics, d.IsWord) ∧
      (Json.parse? (report calls)).bind Diagnostic.listOfJson? = some [odd, plain] := by
  intro odd plain calls
  have hodd : odd.IsWord :=
    ⟨by decide, by decide, ⟨by decide, by decide⟩, ⟨by decide, by decide⟩⟩
  have hplain : plain.IsWord := ⟨by decide, nofun, ⟨by decide, by decide⟩, ⟨by decide, by decide⟩⟩
  have hword : ∀ d ∈ calls.flatMap Call.diagnostics, d.IsWord :=
    List.forall_mem_cons.mpr ⟨hodd, List.forall_mem_singleton.mpr hplain⟩
  exact ⟨hword, (decode_report calls true hword).2.1⟩

end JsonArray

end LintHost
