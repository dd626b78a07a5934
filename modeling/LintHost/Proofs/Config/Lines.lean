import Mathlib
import LintHost.Config.Ini
import LintHost.Proofs.Sequence.Entries
import LintHost.Proofs.Text.Lines
import LintHost.Proofs.Text.Trimmed

/-!
# What one line of a configuration file does

The reader of a configuration file tells seven kinds of line apart, and asks for them in an order
that matters: a comment is one even where an indented line would continue a value, and an indented
line that continues a value is neither a header nor a key. `LintHost.Ini.Reading.Does` has one rule
for each kind, and there are no more than four things that a line can do
(`LintHost.Ini.Reading.Action`): nothing, closing the open key, entering a section, or setting a key
and leaving it open. So whoever follows a reading along its lines has four cases to look at, which
change the document in known ways.

Of what was read before, a line depends on one thing only, the value that it would continue
(`LintHost.Ini.Reading.Does.congr`); and of itself, on what is left when it is trimmed and on whether
it is indented (`LintHost.Ini.Reading.line_congr`). A text is read line by line,
`LintHost.Ini.Reading.after`, and with either of the two ends of a line.
-/

namespace LintHost

open Text

namespace Ini

/-! ### What a document has -/

theorem lookup_assign {α : Type} (key other : String) (value : α) (entries : List (String × α)) :
    (assign key value entries).lookup other =
      if other = key then some value else entries.lookup other := by
  induction entries with
  | nil => rw [assign, lookup_cons_eq]
  | cons entry rest ih =>
    rw [assign]
    by_cases hkey : entry.1 = key
    · rw [if_pos hkey, lookup_cons_eq, lookup_cons_eq, hkey]
      split <;> rfl
    · rw [if_neg hkey, lookup_cons_eq, lookup_cons_eq, ih]
      by_cases hother : other = entry.1
      · rw [if_pos hother, if_pos hother, if_neg fun h => hkey (hother.symm.trans h)]
      · rw [if_neg hother, if_neg hother]

namespace Document

variable {doc : Document} {name key : String}

theorem isSome_section?_set (doc : Document) (name' key value name : String) :
    ((doc.set name' key value).section? name).isSome = true ↔
      (doc.section? name).isSome = true ∨ name = name' := by
  rw [section?, set, lookup_assign, ← section?]
  split
  · next h => simp [h]
  · next h => simp only [h, or_false]

theorem isSome_section?_withSection (doc : Document) (name' name : String) :
    ((doc.withSection name').section? name).isSome = true ↔
      (doc.section? name).isSome = true ∨ name = name' := by
  rw [section?, withSection, lookup_assign, ← section?]
  split
  · next h => simp [h]
  · next h => simp only [h, or_false]

theorem get?_set (doc : Document) (name' key' value name key : String) :
    (doc.set name' key' value).get? name key =
      if name = name' ∧ key = key' then some value else doc.get? name key := by
  rw [get?, section?, set, lookup_assign]
  by_cases hname : name = name'
  · subst hname
    rw [if_pos rfl, Option.bind_some, lookup_assign, get?]
    by_cases hkey : key = key'
    · rw [if_pos hkey, if_pos ⟨rfl, hkey⟩]
    · rw [if_neg hkey, if_neg fun h => hkey h.2]
      cases doc.section? name <;> rfl
  · rw [if_neg hname, if_neg fun h => hname h.1]
    rfl

theorem get?_withSection (doc : Document) (name' name key : String) :
    (doc.withSection name').get? name key = doc.get? name key := by
  rw [get?, section?, withSection, lookup_assign]
  by_cases hname : name = name'
  · subst hname
    rw [if_pos rfl, Option.bind_some, get?]
    cases doc.section? name <;> rfl
  · rw [if_neg hname]
    rfl

theorem hasKey_set (doc : Document) (name' key' value name key : String) :
    (doc.set name' key' value).hasKey name key = true ↔
      doc.hasKey name key = true ∨ name = name' ∧ key = key' := by
  rw [hasKey, hasKey, get?_set]
  split
  · next h => simp [h]
  · next h => simp [h]

theorem hasKey_withSection (doc : Document) (name' name key : String) :
    (doc.withSection name').hasKey name key = doc.hasKey name key := by
  rw [hasKey, hasKey, get?_withSection]

end Document

/-! ### The key on a line -/

/-- A line cut at its first delimiter: what stands before it, trimmed, and the rest. -/
def Leads (line key : List Char) : Prop :=
  ∃ front rest, line = front ++ rest ∧ key = trimEnd front ∧
    (∀ c ∈ front, isDelimiter c = false) ∧ ∀ c, rest.head? = some c → isDelimiter c = true

/-- The key of a line is what stands before its first delimiter. -/
theorem leads_iff {line key : List Char} (hline : IsTrimmed line) :
    Leads line key ↔ (keyAndValue line).1 = key := by
  have hsplit : line.takeWhile (fun c => !isDelimiter c) ++
      line.dropWhile (fun c => !isDelimiter c) = line := List.takeWhile_append_dropWhile
  have hkey : (keyAndValue line).1 = trimEnd (line.takeWhile fun c => !isDelimiter c) := by
    rw [keyAndValue]
    split
    · next hdrop =>
      rw [hdrop, List.append_nil] at hsplit
      rw [hsplit, trimEnd_eq hline.last]
    · rfl
  rw [hkey]
  constructor
  · rintro ⟨front, rest, rfl, rfl, hfront, hrest⟩
    have hpass : ∀ c ∈ front, (!isDelimiter c) = true := fun c hc => by rw [hfront c hc]; rfl
    rw [List.takeWhile_append_of_pos hpass]
    cases rest with
    | nil => rw [List.takeWhile_nil, List.append_nil]
    | cons c rest => rw [List.takeWhile_cons_of_neg (by simp [hrest c rfl]), List.append_nil]
  · rintro rfl
    refine ⟨_, _, hsplit.symm, rfl, fun c hc => ?_, fun c hc => ?_⟩
    · simpa using List.mem_takeWhile_imp hc
    · have := List.head?_dropWhile_not (fun c => !isDelimiter c) line
      rw [hc] at this
      simpa using this

/-- A line that starts with a visible character is not indented. -/
theorem not_isIndented_of_head {raw : List Char} {c : Char} (hc : raw.head? = some c)
    (h : isBlank c = false) : isIndented raw = false := by
  rw [isIndented, hc, Bool.or_eq_false_iff]
  constructor <;> rw [beq_eq_false_iff_ne] <;> rintro ⟨⟩ <;> exact absurd h (by decide)

namespace Reading

/-- An indented line continues the value of the open key. -/
theorem continued?_eq_some_iff {r : Reading} {raw : List Char} {key value : String} :
    r.continued? raw = some (key, value) ↔
      r.openKey = some key ∧ r.document.get? r.current key = some value ∧
        isIndented raw = true := by
  simp only [continued?, Option.bind_eq_bind, Option.bind_eq_some_iff,
    Option.ite_none_right_eq_some, Option.some.injEq, Prod.mk.injEq]
  constructor
  · rintro ⟨k, hopen, v, hget, hind, rfl, rfl⟩
    exact ⟨hopen, hget, hind⟩
  · rintro ⟨hopen, hget, hind⟩
    exact ⟨key, hopen, value, hget, hind, rfl, rfl⟩

theorem continued?_eq_none {r : Reading} {raw : List Char} (h : isIndented raw = false) :
    r.continued? raw = none := by
  rw [← Option.not_isSome_iff_eq_none, Option.isSome_iff_exists]
  rintro ⟨⟨key, value⟩, hopen⟩
  rw [(continued?_eq_some_iff.mp hopen).2.2] at h
  simp at h

/-- **A line that writes a key**, in letters of any case: no comment, no continuation of the value
above, no header, and with something before its first delimiter. -/
structure Writes (r : Reading) (raw key : List Char) : Prop where
  leads : Leads (trim raw) key
  ne_nil : key ≠ []
  not_comment : isComment (trim raw) = false
  not_continued : r.continued? raw = none
  not_header : (trim raw).head? ≠ some '['

theorem Writes.unique {r : Reading} {raw key key' : List Char} (h : r.Writes raw key)
    (h' : r.Writes raw key') : key = key' := by
  have htrim := isTrimmed_trim raw
  rw [← (leads_iff htrim).mp h.leads, ← (leads_iff htrim).mp h'.leads]

/-! ### The kinds of line -/

/-- What a line can do to a reading. -/
inductive Action where
  /-- Nothing. -/
  | pass
  /-- It closes the open key. -/
  | close
  /-- It enters a section, which is there from then on. -/
  | enter (name : String)
  /-- It sets a key of the current section, and leaves it open. -/
  | set (key value : String)

/-- The reading after an action. -/
def perform (r : Reading) : Action → Reading
  | .pass => r
  | .close => { r with openKey := none }
  | .enter name => { document := r.document.withSection name, current := name, openKey := none }
  | .set key value =>
    { r with document := r.document.set r.current key value, openKey := some key }

/-- **What a line does**, with one rule for each kind of line. -/
inductive Does (r : Reading) (raw : List Char) : Action → Prop
  /-- A blank line closes the open key. -/
  | blank (h : trim raw = []) : Does r raw .close
  /-- A comment does nothing. -/
  | comment (h : isComment (trim raw) = true) : Does r raw .pass
  /-- An indented line is put to the value that is open. -/
  | continuation {key value : String} (hne : trim raw ≠ [])
      (hcomment : isComment (trim raw) = false) (h : r.continued? raw = some (key, value)) :
      Does r raw (.set key (value ++ "\n" ++ String.ofList (trim raw)))
  /-- A header enters its section. -/
  | header {rest name : List Char} (hline : trim raw = '[' :: rest)
      (hopen : r.continued? raw = none) (hname : headerName? rest = some name) :
      Does r raw (.enter (String.ofList name))
  /-- A header without a closing bracket is passed over. -/
  | unclosed {rest : List Char} (hline : trim raw = '[' :: rest) (hopen : r.continued? raw = none)
      (hname : headerName? rest = none) : Does r raw .close
  /-- A line with nothing before its delimiter is passed over. -/
  | keyless (hne : trim raw ≠ []) (hcomment : isComment (trim raw) = false)
      (hopen : r.continued? raw = none) (hheader : (trim raw).head? ≠ some '[')
      (hkey : (keyAndValue (trim raw)).1 = []) : Does r raw .close
  /-- Any other line writes a key, and what stands after the delimiter is its value. -/
  | entry {written : List Char} (h : r.Writes raw written) :
      Does r raw (.set (String.ofList (toLower written))
        (String.ofList (keyAndValue (trim raw)).2))

variable {r other : Reading} {raw : List Char} {a : Action}

/-- **A line does what its rule says.** -/
theorem Does.line_eq (h : r.Does raw a) : r.line raw = r.perform a := by
  rw [line]
  cases h with
  | blank h => simp only [h, perform]
  | comment h =>
    cases hline : trim raw with
    | nil => simp [hline, isComment] at h
    | cons first rest =>
      rw [hline] at h
      simp only [h, ↓reduceIte, perform]
  | continuation hne hcomment h =>
    obtain ⟨hopen, -, -⟩ := continued?_eq_some_iff.mp h
    cases hline : trim raw with
    | nil => exact absurd hline hne
    | cons first rest =>
      rw [hline] at hcomment
      simp only [hcomment, Bool.false_eq_true, ↓reduceIte, h, perform, hopen]
  | header hline hopen hname =>
    rw [hline]
    simp only [isComment, List.head?_cons, hopen, Reading.header, hname, perform]
    rfl
  | unclosed hline hopen hname =>
    rw [hline]
    simp only [isComment, List.head?_cons, hopen, Reading.header, hname, perform]
    rfl
  | keyless hne hcomment hopen hheader hkey =>
    cases hline : trim raw with
    | nil => exact absurd hline hne
    | cons first rest =>
      rw [hline] at hcomment hheader hkey
      simp only [hcomment, Bool.false_eq_true, ↓reduceIte, hopen, Reading.entry, hkey, perform]
      rw [if_neg fun hfirst => hheader (by rw [hfirst]; rfl)]
  | entry h =>
    have hkey := (leads_iff (isTrimmed_trim raw)).mp h.leads
    have hcomment := h.not_comment
    have hheader := h.not_header
    have hne := h.ne_nil
    cases hline : trim raw with
    | nil =>
      rw [hline] at hkey
      exact absurd hkey.symm hne
    | cons first rest =>
      rw [hline] at hkey hcomment hheader
      simp only [hcomment, Bool.false_eq_true, ↓reduceIte, h.not_continued, Reading.entry, hkey,
        perform]
      rw [if_neg fun hfirst => hheader (by rw [hfirst]; rfl), if_neg hne]

/-- **Every line is of one of the kinds.** -/
theorem exists_does (r : Reading) (raw : List Char) : ∃ a, r.Does raw a := by
  by_cases hne : trim raw = []
  · exact ⟨_, .blank hne⟩
  by_cases hcomment : isComment (trim raw) = true
  · exact ⟨_, .comment hcomment⟩
  rw [Bool.not_eq_true] at hcomment
  cases hopen : r.continued? raw with
  | some pair => exact ⟨_, .continuation hne hcomment hopen⟩
  | none =>
    by_cases hheader : (trim raw).head? = some '['
    · obtain ⟨rest, hline⟩ := List.head?_eq_some_iff.mp hheader
      cases hname : headerName? rest with
      | none => exact ⟨_, .unclosed hline hopen hname⟩
      | some name => exact ⟨_, .header hline hopen hname⟩
    · by_cases hkey : (keyAndValue (trim raw)).1 = []
      · exact ⟨_, .keyless hne hcomment hopen hheader hkey⟩
      · exact ⟨_, .entry ⟨(leads_iff (isTrimmed_trim raw)).mpr rfl, hkey, hcomment, hopen, hheader⟩⟩

/-- What stands between brackets is the name of a section, in whatever state the reading is. -/
theorem does_header (r : Reading) (name : List Char) :
    r.Does (['['] ++ name ++ [']']) (.enter (String.ofList (trim name))) := by
  have htrim : IsTrimmed (['['] ++ name ++ [']']) :=
    (isTrimmed_singleton (by decide)).append (isTrimmed_singleton (by decide))
      (List.cons_ne_nil _ _) (List.cons_ne_nil _ _) _
  have hline : trim (['['] ++ name ++ [']']) = '[' :: (name ++ [']']) := htrim.trim_eq
  refine .header hline
    (continued?_eq_none (not_isIndented_of_head (c := '[') rfl (by decide))) ?_
  rw [headerName?, if_pos (by simp), List.dropLast_concat]

theorem Writes.congr (h : other.continued? raw = r.continued? raw) {written : List Char}
    (hwrites : r.Writes raw written) : other.Writes raw written :=
  { hwrites with not_continued := h.trans hwrites.not_continued }

/-- **A line does the same to two readings** of which it would continue the same value. -/
theorem Does.congr (h : other.continued? raw = r.continued? raw) (hdoes : r.Does raw a) :
    other.Does raw a := by
  cases hdoes with
  | blank hline => exact .blank hline
  | comment hcomment => exact .comment hcomment
  | continuation hne hcomment hopen => exact .continuation hne hcomment (h.trans hopen)
  | header hline hopen hname => exact .header hline (h.trans hopen) hname
  | unclosed hline hopen hname => exact .unclosed hline (h.trans hopen) hname
  | keyless hne hcomment hopen hheader hkey =>
    exact .keyless hne hcomment (h.trans hopen) hheader hkey
  | entry hwrites => exact .entry (hwrites.congr h)

/-! ### What a line is told by -/

/-- **A line is told by what is left of it when it is trimmed**, and by whether it is indented if
anything is left. -/
theorem line_congr {raw' : List Char} (htrim : trim raw' = trim raw)
    (hindent : trim raw ≠ [] → isIndented raw' = isIndented raw) : r.line raw' = r.line raw := by
  rw [line, line, htrim]
  cases hline : trim raw with
  | nil => rfl
  | cons first rest =>
    have hopen : r.continued? raw' = r.continued? raw := by
      rw [continued?, continued?, hindent (by rw [hline]; exact List.cons_ne_nil _ _)]
    rw [hopen]

/-- White space at the end of a line is not seen. -/
theorem line_append_blanks {blanks : List Char} (h : ∀ c ∈ blanks, isBlank c = true) :
    r.line (raw ++ blanks) = r.line raw := by
  have htrim := trim_append_blanks h raw
  refine line_congr htrim fun hne => ?_
  -- An empty line may become indented, but nothing is left of it.
  cases raw with
  | nil => exact absurd rfl hne
  | cons c cs => rfl

theorem line_append_return (r : Reading) (raw : List Char) :
    r.line (raw ++ ['\r']) = r.line raw := by
  refine line_append_blanks fun c hc => ?_
  rw [List.mem_singleton.mp hc]
  decide

/-- A carriage return at the end of a line may be dropped. -/
theorem line_dropReturn (r : Reading) (raw : List Char) : r.line (dropReturn raw) = r.line raw := by
  obtain ⟨-, hkept⟩ | hreturn := dropReturn_cases raw
  · rw [hkept]
  · generalize dropReturn raw = front at hreturn
    rw [hreturn, line_append_return]

/-! ### The lines of a text -/

/-- The reading after the lines of a text. -/
def after (r : Reading) (cs : List Char) : Reading :=
  (lines cs).foldl line r

theorem after_append {cs : List Char} (h : IsWhole cs) (r : Reading) (ds : List Char) :
    r.after (cs ++ ds) = (r.after cs).after ds := by
  rw [after, lines_append h, List.foldl_append]
  rfl

/-- **A line that is ended** is read as it stands, whichever of the two ends it has. -/
theorem after_feed (h : '\n' ∉ raw) (r : Reading) (rest : List Char) :
    r.after (raw ++ '\n' :: rest) = (r.line raw).after rest := by
  rw [after, lines_feed h, List.foldl_cons, line_dropReturn]
  rfl

theorem after_returnFeed (h : '\n' ∉ raw) (r : Reading) (rest : List Char) :
    r.after (raw ++ '\r' :: '\n' :: rest) = (r.line raw).after rest := by
  rw [after, lines_returnFeed h, List.foldl_cons]
  rfl

/-- The last line is read as it stands too, as far as the document goes: where it is empty, there is
no line that would close the open key. -/
theorem document_after_last (h : '\n' ∉ raw) (r : Reading) :
    (r.after raw).document = (r.line raw).document := by
  rw [after, lines_of_not_mem h]
  split
  · next hnil =>
    rw [hnil]
    rfl
  · rfl

end Reading

end Ini

end LintHost
