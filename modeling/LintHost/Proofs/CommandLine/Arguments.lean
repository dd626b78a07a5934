import Mathlib.Data.List.Basic
import LintHost.CommandLine.Options

/-!
# The arguments of the command line, one by one

An argument is told from the others by its spelling alone. A flag is one word, an option with a value
is an *opening* such as `--command=` followed by any text, whatever this text looks like, everything
else with a hyphen in front is no option, and what has none is a file. `LintHost.HasForm` is that
grammar, and `LintHost.hasForm_ofText` says that it is how arguments are classified: no opening is
the beginning of another one or of a flag, so it plays no role in which order they are tried.

What a list of arguments has of one kind can then be told in two ways, by the arguments as they are
written and by their forms: `LintHost.filter_opens` for the options with a value,
`LintHost.filter_not_opens_hyphen` for the files, and `LintHost.mem_map_ofText_iff` for the flags.
-/

namespace LintHost

open Argument

/-! ### How a text starts -/

/-- A text that starts with another. -/
def Opens (opening text : String) : Prop :=
  opening.toList <+: text.toList

instance (opening text : String) : Decidable (Opens opening text) :=
  inferInstanceAs (Decidable (opening.toList <+: text.toList))

variable {opening text value : String}

theorem opens_append (opening value : String) : Opens opening (opening ++ value) :=
  ⟨value.toList, String.toList_append.symm⟩

theorem opens_iff : Opens opening text ↔ ∃ value, text = opening ++ value := by
  constructor
  · rintro ⟨rest, hrest⟩
    exact ⟨String.ofList rest, String.toList_inj.mp (by simp [hrest])⟩
  · rintro ⟨value, rfl⟩
    exact opens_append opening value

theorem append_left_cancel {v w : String} (h : opening ++ v = opening ++ w) : v = w := by
  rw [← String.toList_inj, String.toList_append, String.toList_append] at h
  exact String.toList_inj.mp (List.append_cancel_left h)

theorem append_left_injective (opening : String) : Function.Injective (opening ++ ·) :=
  fun _ _ h => append_left_cancel h

theorem opens_hyphen_iff : Opens "-" text ↔ text.toList.head? = some '-' := by
  rw [Opens]
  cases text.toList with
  | nil => simp
  | cons c cs => simp [eq_comm]

/-- What follows an opening is all that is needed to write the text again. -/
theorem after?_eq_some_iff : after? opening text = some value ↔ text = opening ++ value := by
  rw [after?]
  constructor
  · intro h
    split at h
    · next hprefix =>
      obtain ⟨rest, hrest⟩ := List.isPrefixOf_iff_prefix.mp hprefix
      rw [← hrest, List.drop_left] at h
      rw [← String.toList_inj, String.toList_append, ← hrest, ← Option.some.inj h,
        String.toList_ofList]
    · simp at h
  · rintro rfl
    rw [if_pos (List.isPrefixOf_iff_prefix.mpr (opens_append opening value)),
      String.toList_append, List.drop_left, String.ofList_toList]

/-! ### The grammar of an argument -/

/-- The options that are one word. -/
def Argument.flags : List String :=
  ["--stdin", "--incremental", "--debug"]

/-- What the options that take a value start with. -/
def Argument.openings : List String :=
  ["--command=", "--mypypath=", "--cache-dir=", "--format="]

theorem opens_hyphen_of_mem_flags (h : text ∈ flags) : Opens "-" text := by
  simp only [flags, List.mem_cons, List.not_mem_nil, or_false] at h
  obtain rfl | rfl | rfl := h <;> decide

theorem opens_hyphen_of_mem_openings (h : opening ∈ openings) (hopens : Opens opening text) :
    Opens "-" text := by
  refine List.IsPrefix.trans ?_ hopens
  simp only [openings, List.mem_cons, List.not_mem_nil, or_false] at h
  obtain rfl | rfl | rfl | rfl := h <;> decide

/-- No flag starts with an opening. -/
theorem not_opens_of_mem_flags (h : opening ∈ openings) (h' : text ∈ flags) :
    ¬Opens opening text := by
  have hno : ∀ opening ∈ openings, ∀ word ∈ flags, ¬Opens opening word := by decide
  exact hno opening h text h'

/-- **The forms of an argument**, as they are written. -/
inductive HasForm : String → Argument → Prop
  | stdin : HasForm "--stdin" .stdin
  | incremental : HasForm "--incremental" .incremental
  | debug : HasForm "--debug" .debug
  | command (value : String) : HasForm ("--command=" ++ value) (.command value)
  | mypypath (value : String) : HasForm ("--mypypath=" ++ value) (.mypypath value)
  | cacheDirectory (value : String) : HasForm ("--cache-dir=" ++ value) (.cacheDirectory value)
  | format (value : String) : HasForm ("--format=" ++ value) (.format value)
  /-- A hyphen in front, and none of the above. -/
  | unknown {text : String} (hyphen : Opens "-" text) (noFlag : text ∉ flags)
    (noOpening : ∀ opening ∈ openings, ¬Opens opening text) : HasForm text (.unknown text)
  /-- No hyphen in front. -/
  | file {text : String} (plain : ¬Opens "-" text) : HasForm text (.file text)

/-- The table of the options that take a value, told by the grammar. -/
theorem hasForm_of_mem_valued {option : String × (String → Argument)} (h : option ∈ valued)
    (value : String) : HasForm (option.1 ++ value) (option.2 value) := by
  simp only [valued, List.mem_cons, List.not_mem_nil, or_false] at h
  obtain rfl | rfl | rfl | rfl := h
  · exact .command value
  · exact .mypypath value
  · exact .cacheDirectory value
  · exact .format value

/-- **Arguments are classified by the grammar.** -/
theorem hasForm_ofText (text : String) : HasForm text (ofText text) := by
  unfold ofText
  split
  · next h => exact h ▸ .stdin
  split
  · next h => exact h ▸ .incremental
  split
  · next h => exact h ▸ .debug
  split
  · next argument hfound =>
    obtain ⟨option, hoption, hvalue⟩ := List.exists_of_findSome?_eq_some hfound
    obtain ⟨value, hafter, rfl⟩ := Option.map_eq_some_iff.mp hvalue
    rw [after?_eq_some_iff.mp hafter]
    exact hasForm_of_mem_valued hoption value
  · next hstdin hincremental hdebug _ hnone =>
    -- The text starts with no opening, or the entry of the table for that would have applied.
    have hopening (opening) (hmem : opening ∈ openings) : ¬Opens opening text := by
      intro hopens
      obtain ⟨value, hvalue⟩ := opens_iff.mp hopens
      obtain ⟨option, hoption, rfl⟩ := List.mem_map.mp (show opening ∈ valued.map (·.1) from hmem)
      have hmiss := List.findSome?_eq_none_iff.mp hnone option hoption
      rw [after?_eq_some_iff.mpr hvalue] at hmiss
      simp at hmiss
    split
    · next hhead =>
      refine .unknown (opens_hyphen_iff.mpr hhead) ?_ hopening
      simp [flags, hstdin, hincremental, hdebug]
    · next hhead => exact .file (mt opens_hyphen_iff.mp hhead)

/-- **A text has one form only.** -/
theorem HasForm.ofText_eq {form : Argument} (h : HasForm text form) : ofText text = form := by
  cases h with
  | stdin | incremental | debug => rfl
  | command value | mypypath value | cacheDirectory value | format value =>
    simp [ofText, valued, after?, ← String.toList_inj]
  | unknown hyphen noFlag noOpening =>
    -- The text has one of the forms; all but the last are those that were ruled out.
    have hform := hasForm_ofText text
    generalize ofText text = form at hform
    cases hform with
    | stdin | incremental | debug => simp [flags] at noFlag
    | command value | mypypath value | cacheDirectory value | format value =>
      exact absurd (opens_append _ value) (noOpening _ (by simp [openings]))
    | unknown => rfl
    | file plain => exact absurd hyphen plain
  | file plain =>
    have hform := hasForm_ofText text
    generalize ofText text = form at hform
    cases hform with
    | stdin | incremental | debug =>
      exact absurd (opens_hyphen_of_mem_flags (by simp [flags])) plain
    | command value | mypypath value | cacheDirectory value | format value =>
      exact absurd (opens_hyphen_of_mem_openings (by simp [openings]) (opens_append _ value)) plain
    | unknown hyphen => exact absurd hyphen plain
    | file => rfl

theorem ofText_eq_iff {form : Argument} : ofText text = form ↔ HasForm text form :=
  ⟨fun h => h ▸ hasForm_ofText text, HasForm.ofText_eq⟩

/-! ### What a list of arguments has of one kind -/

/-- The option with a value that an argument is, by its opening, and the value. -/
def Argument.setting? : Argument → Option (String × String)
  | .command value => some ("--command=", value)
  | .mypypath value => some ("--mypypath=", value)
  | .cacheDirectory value => some ("--cache-dir=", value)
  | .format value => some ("--format=", value)
  | _ => none

/-- The value that an argument gives the option with an opening. -/
def Argument.value? (opening : String) (argument : Argument) : Option String :=
  argument.setting?.bind fun setting => if setting.1 = opening then some setting.2 else none

/-- The file that an argument is. -/
def Argument.file? : Argument → Option String
  | .file text => some text
  | _ => none

theorem value?_eq_some_iff {form : Argument} :
    form.value? opening = some value ↔ form.setting? = some (opening, value) := by
  rw [value?]
  cases form.setting? with
  | none => simp
  | some setting =>
    rw [Option.bind_some, Option.some.injEq, Prod.ext_iff]
    split <;> simp_all

/-- The values given to an option are what its arguments have after the opening. -/
theorem value?_ofText_eq_some_iff (h : opening ∈ openings) :
    (ofText text).value? opening = some value ↔ text = opening ++ value := by
  constructor
  · have hform := hasForm_ofText text
    generalize ofText text = form at hform
    rw [value?_eq_some_iff]
    intro hsetting
    cases hform with
    | stdin | incremental | debug | unknown | file => cases hsetting
    | command | mypypath | cacheDirectory | format =>
      cases hsetting
      rfl
  · rintro rfl
    simp only [openings, List.mem_cons, List.not_mem_nil, or_false] at h
    obtain rfl | rfl | rfl | rfl := h
    · rw [(HasForm.command value).ofText_eq]; rfl
    · rw [(HasForm.mypypath value).ofText_eq]; rfl
    · rw [(HasForm.cacheDirectory value).ofText_eq]; rfl
    · rw [(HasForm.format value).ofText_eq]; rfl

theorem file?_ofText (text : String) :
    (ofText text).file? = if Opens "-" text then none else some text := by
  have hform := hasForm_ofText text
  generalize ofText text = form at hform
  cases hform with
  | stdin | incremental | debug => rfl
  | command value | mypypath value | cacheDirectory value | format value =>
    rw [if_pos (opens_hyphen_of_mem_openings (by simp [openings]) (opens_append _ value))]
    rfl
  | unknown hyphen => rw [if_pos hyphen]; rfl
  | file plain => rw [if_neg plain]; rfl

/-- No opening is the beginning of another one. -/
theorem opens_append_iff {other : String} (h : opening ∈ openings) (hother : other ∈ openings) :
    Opens opening (other ++ value) ↔ opening = other := by
  refine ⟨fun hopens => ?_, fun heq => heq ▸ opens_append opening value⟩
  obtain ⟨rest, hrest⟩ := opens_iff.mp hopens
  have hthis := value?_eq_some_iff.mp ((value?_ofText_eq_some_iff h).mpr hrest)
  have hthat : (ofText (other ++ value)).setting? = some (other, value) :=
    value?_eq_some_iff.mp ((value?_ofText_eq_some_iff hother).mpr rfl)
  exact congrArg Prod.fst (Option.some.inj (hthis.symm.trans hthat))

/-- **The occurrences of an option with a value** are its values in their order, each written after
the opening. -/
theorem filter_opens (h : opening ∈ openings) (arguments : List String) :
    arguments.filter (Opens opening ·) =
      ((arguments.map ofText).filterMap (value? opening)).map (opening ++ ·) := by
  induction arguments with
  | nil => rfl
  | cons argument arguments ih =>
    rw [List.map_cons, List.filterMap_cons]
    by_cases hopens : Opens opening argument
    · obtain ⟨value, rfl⟩ := opens_iff.mp hopens
      rw [List.filter_cons_of_pos (by simpa using hopens), ih,
        (value?_ofText_eq_some_iff h).mpr rfl, List.map_cons]
    · rw [List.filter_cons_of_neg (by simpa using hopens), ih]
      cases hvalue : (ofText argument).value? opening with
      | none => rfl
      | some value =>
        exact absurd (opens_iff.mpr ⟨value, (value?_ofText_eq_some_iff h).mp hvalue⟩) hopens

/-- **The files** are the arguments without a hyphen in front. -/
theorem filter_not_opens_hyphen (arguments : List String) :
    arguments.filter (¬Opens "-" ·) = (arguments.map ofText).filterMap file? := by
  induction arguments with
  | nil => rfl
  | cons argument arguments ih =>
    rw [List.map_cons, List.filterMap_cons, file?_ofText]
    by_cases hopens : Opens "-" argument
    · rw [List.filter_cons_of_neg (by simpa using hopens), ih, if_pos hopens]
    · rw [List.filter_cons_of_pos (by simpa using hopens), ih, if_neg hopens]

/-- **The flags** are the words that have their forms. -/
theorem mem_map_ofText_iff {form : Argument} (h : HasForm text form)
    (hone : ∀ other, HasForm other form → other = text) {arguments : List String} :
    form ∈ arguments.map ofText ↔ text ∈ arguments := by
  constructor
  · intro hmem
    obtain ⟨other, hother, hform⟩ := List.mem_map.mp hmem
    exact hone other (ofText_eq_iff.mp hform) ▸ hother
  · exact fun hmem => List.mem_map.mpr ⟨text, hmem, h.ofText_eq⟩

end LintHost
