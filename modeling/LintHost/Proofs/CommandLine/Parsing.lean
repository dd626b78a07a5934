import Mathlib.Data.List.Induction
import Mathlib.Data.List.Perm.Basic
import LintHost.Proofs.CommandLine.Arguments
import LintHost.Proofs.Sequence.Lasting

/-!
# Going through the arguments

The options of the `check` command come in any order, and of each the last one counts. An argument is
refused for what it is, or because a file was named before (`LintHost.Offending`); nothing else of
what came before it matters. The arguments are gone through one after the other, and what is kept of
those so far is `LintHost.CheckOptions.given`, the invariant of the run.

| of | it is said that | theorem |
|---|---|---|
| an argument that offends | it is refused | `LintHost.CheckOptions.take_of_offending` |
| any other argument | it is taken up | `LintHost.CheckOptions.take_of_not_offending` |
| a list | it is sound, or has a leftmost offender | `LintHost.sound_or_exists_offending` |
| the run over a sound list | it gives what is kept of all | `LintHost.CheckOptions.run_of_sound` |
| the run over any other list | it ends at the leftmost offender | `LintHost.CheckOptions.run_of_offending` |

Whether a list is sound does not depend on its order (`LintHost.sound_iff`), although it is defined
through what comes before each argument.
-/

namespace LintHost

open Argument

/-! ### Arguments that cannot be used -/

/-- The name of an output format. -/
def formatName : OutputFormat → String
  | .text => "text"
  | .json => "json"

/-- **The options**, as they are written. -/
inductive IsOption : String → Prop
  | stdin : IsOption "--stdin"
  | incremental : IsOption "--incremental"
  | debug : IsOption "--debug"
  | command (value : String) : IsOption ("--command=" ++ value)
  | mypypath (value : String) : IsOption ("--mypypath=" ++ value)
  | cacheDirectory (value : String) : IsOption ("--cache-dir=" ++ value)
  | format (format : OutputFormat) : IsOption ("--format=" ++ formatName format)

/-- **An argument that cannot be used** after others: it starts with a hyphen and is no option, or it
is a second file. -/
def Offending (before : List String) (argument : String) : Prop :=
  (Opens "-" argument ∧ ¬IsOption argument) ∨
    (¬Opens "-" argument ∧ ∃ earlier ∈ before, ¬Opens "-" earlier)

/-- What is said of an argument that cannot be used. -/
inductive Complaint : String → String → Prop
  | format (value : String) :
    Complaint ("--format=" ++ value) ("unknown format '" ++ value ++ "' (expected text or json)")
  | option {argument : String} (hyphen : Opens "-" argument) (other : ¬Opens "--format=" argument) :
    Complaint argument ("unknown option '" ++ argument ++ "'")
  | extra {argument : String} (plain : ¬Opens "-" argument) :
    Complaint argument ("unexpected argument '" ++ argument ++ "'")

/-- A list of arguments of which all can be used. -/
def Sound (arguments : List String) : Prop :=
  ∀ before argument after, arguments = before ++ argument :: after → ¬Offending before argument

variable {arguments before after : List String} {argument : String}

theorem IsOption.opens_hyphen (h : IsOption argument) : Opens "-" argument := by
  cases h with
  | stdin | incremental | debug => exact opens_hyphen_of_mem_flags (by simp [flags])
  | command | mypypath | cacheDirectory | format =>
    exact opens_hyphen_of_mem_openings (by simp [openings]) (opens_append _ _)

/-! ### What is said of each kind -/

theorem complaint_format_iff {value message : String} :
    Complaint ("--format=" ++ value) message ↔
      message = "unknown format '" ++ value ++ "' (expected text or json)" := by
  constructor
  · generalize htext : "--format=" ++ value = text
    have hopens : Opens "--format=" text := htext ▸ opens_append _ value
    intro h
    cases h with
    | format v => rw [append_left_cancel htext]
    | option _ other => exact absurd hopens other
    | extra plain =>
      exact absurd (opens_hyphen_of_mem_openings (by simp [openings]) hopens) plain
  · rintro rfl
    exact .format value

theorem complaint_option_iff {message : String} (hyphen : Opens "-" argument)
    (other : ¬Opens "--format=" argument) :
    Complaint argument message ↔ message = "unknown option '" ++ argument ++ "'" := by
  constructor
  · intro h
    cases h with
    | format value => exact absurd (opens_append _ value) other
    | option => rfl
    | extra plain => exact absurd hyphen plain
  · rintro rfl
    exact .option hyphen other

theorem complaint_extra_iff {message : String} (plain : ¬Opens "-" argument) :
    Complaint argument message ↔ message = "unexpected argument '" ++ argument ++ "'" := by
  constructor
  · intro h
    cases h with
    | format value =>
      exact absurd (opens_hyphen_of_mem_openings (by simp [openings]) (opens_append _ value)) plain
    | option hyphen => exact absurd hyphen plain
    | extra => rfl
  · rintro rfl
    exact .extra plain

/-! ### Sound lists -/

theorem sound_nil : Sound [] := by
  intro before argument after h
  simp at h

theorem sound_concat_iff :
    Sound (arguments ++ [argument]) ↔ Sound arguments ∧ ¬Offending arguments argument := by
  constructor
  · refine fun h => ⟨fun before other after hcut => ?_, h arguments argument [] rfl⟩
    exact h before other (after ++ [argument]) (by simp [hcut])
  · rintro ⟨hsound, hlast⟩ before other after hcut
    obtain rfl | ⟨after, last, rfl⟩ := List.eq_nil_or_concat' after
    · obtain ⟨rfl, hother⟩ := List.append_inj' hcut rfl
      exact (List.cons.inj hother).1 ▸ hlast
    · rw [← List.cons_append, ← List.append_assoc] at hcut
      exact hsound before other after (List.append_inj' hcut rfl).1

/-- **A list that is not sound has a leftmost argument that cannot be used.** -/
theorem sound_or_exists_offending (arguments : List String) :
    Sound arguments ∨ ∃ before argument after,
      arguments = before ++ argument :: after ∧ Sound before ∧ Offending before argument := by
  induction arguments using List.reverseRecOn with
  | nil => exact .inl sound_nil
  | append_singleton arguments last ih =>
    obtain hsound | ⟨before, argument, after, rfl, hsound, hoffends⟩ := ih
    · by_cases hlast : Offending arguments last
      · exact .inr ⟨arguments, last, [], rfl, hsound, hlast⟩
      · exact .inl (sound_concat_iff.mpr ⟨hsound, hlast⟩)
    · exact .inr ⟨before, argument, after ++ [last], by simp, hsound, hoffends⟩

/-- **Soundness by counting**: all that start with a hyphen are options, and of the others there is at
most one. The order of the arguments plays no role in that. -/
theorem sound_iff :
    Sound arguments ↔ (∀ argument ∈ arguments, Opens "-" argument → IsOption argument) ∧
      (arguments.filter (¬Opens "-" ·)).length ≤ 1 := by
  induction arguments using List.reverseRecOn with
  | nil => simp [sound_nil]
  | append_singleton arguments last ih =>
    rw [sound_concat_iff, ih, Offending, List.filter_append, List.length_append]
    by_cases hlast : Opens "-" last
    · have hfilter : [last].filter (¬Opens "-" ·) = [] := by simp [hlast]
      simp only [hlast, hfilter, true_and, not_true_eq_false, false_and, or_false, not_not,
        List.forall_mem_append, List.forall_mem_singleton, forall_const, List.length_nil]
      tauto
    · have hfilter : [last].filter (¬Opens "-" ·) = [last] := by simp [hlast]
      -- One file more leaves at most one only where there was none.
      have hnone : (arguments.filter (¬Opens "-" ·)).length + [last].length ≤ 1 ↔
          ¬∃ earlier ∈ arguments, ¬Opens "-" earlier := by
        simp
      rw [hfilter, hnone]
      simp only [hlast, false_and, not_false_eq_true, true_and, false_or,
        List.forall_mem_append, List.forall_mem_singleton, false_implies, and_true]
      constructor
      · exact fun h => ⟨h.1.1, h.2⟩
      · refine fun h => ⟨⟨h.1, ?_⟩, h.2⟩
        exact Nat.le_trans (Nat.le_add_right _ _) (hnone.mpr h.2)

/-! ### Options by their form -/

/-- The formats are known by their names. -/
theorem formatOf?_eq_some_iff {value : String} {format : OutputFormat} :
    CheckOptions.formatOf? value = some format ↔ value = formatName format := by
  unfold CheckOptions.formatOf?
  split <;> cases format <;> simp_all [formatName]

/-- Whether a form is that of an option. -/
def Argument.isOption : Argument → Bool
  | .format value => (CheckOptions.formatOf? value).isSome
  | .unknown _ | .file _ => false
  | _ => true

theorem isOption_iff {text : String} : IsOption text ↔ (ofText text).isOption = true := by
  constructor
  · intro h
    cases h with
    | stdin | incremental | debug => rfl
    | command value => rw [(HasForm.command value).ofText_eq]; rfl
    | mypypath value => rw [(HasForm.mypypath value).ofText_eq]; rfl
    | cacheDirectory value => rw [(HasForm.cacheDirectory value).ofText_eq]; rfl
    | format format =>
      rw [(HasForm.format _).ofText_eq]
      exact Option.isSome_iff_exists.mpr ⟨format, formatOf?_eq_some_iff.mpr rfl⟩
  · have hform := hasForm_ofText text
    generalize ofText text = form at hform
    intro h
    cases hform with
    | stdin => exact .stdin
    | incremental => exact .incremental
    | debug => exact .debug
    | command value => exact .command value
    | mypypath value => exact .mypypath value
    | cacheDirectory value => exact .cacheDirectory value
    | format value =>
      obtain ⟨format, hformat⟩ := Option.isSome_iff_exists.mp h
      rw [formatOf?_eq_some_iff.mp hformat]
      exact .format format
    | unknown | file => simp [Argument.isOption] at h

theorem isOption_format_iff {value : String} :
    IsOption ("--format=" ++ value) ↔ ∃ format, value = formatName format := by
  rw [isOption_iff, (HasForm.format value).ofText_eq, Argument.isOption,
    Option.isSome_iff_exists]
  simp only [formatOf?_eq_some_iff]

/-! ### One argument more -/

namespace CheckOptions

/-- **What is taken up of some arguments**, by their forms: the options, and the file apart. -/
def given (forms : List Argument) : CheckOptions × Option Path :=
  ({ stdin := decide (.stdin ∈ forms)
     command := latest? (value? "--command=") forms
     mypypath := latest? (value? "--mypypath=") forms
     incremental := decide (.incremental ∈ forms)
     cacheDirectory := latest? (value? "--cache-dir=") forms
     format := ((latest? (value? "--format=") forms).bind formatOf?).getD .text
     debug := decide (.debug ∈ forms) },
    (latest? file? forms).map Path.mk)

/-- An option is taken up, whatever came before, and so is the first file. -/
theorem take_given {forms : List Argument} {form : Argument}
    (h : form.isOption = true ∨ ∃ text, form = .file text ∧ latest? file? forms = none) :
    take (given forms) form = .ok (given (forms ++ [form])) := by
  -- What a form is not about, it gives no value for, so that the latest value stays.
  cases form with
  | stdin | incremental | debug | command | mypypath | cacheDirectory =>
    simp [take, given, latest?_concat, value?, setting?, file?]
  | format value =>
    obtain ⟨format, hformat⟩ := Option.isSome_iff_exists.mp (h.resolve_right (by simp))
    simp [take, given, latest?_concat, value?, setting?, file?, hformat]
  | unknown text => simp [Argument.isOption] at h
  | file text =>
    obtain ⟨_, -, hnone⟩ := h.resolve_left (by simp [Argument.isOption])
    simp [take, given, latest?_concat, value?, setting?, file?, hnone]

/-- There is a file once an argument has no hyphen in front. -/
theorem latest?_file?_eq_none_iff {before : List String} :
    latest? file? (before.map ofText) = none ↔ ∀ earlier ∈ before, Opens "-" earlier := by
  rw [latest?, ← filter_not_opens_hyphen, List.getLast?_eq_none_iff, List.filter_eq_nil_iff]
  simp

/-- **An argument that does not offend is taken up.** -/
theorem take_of_not_offending (h : ¬Offending before argument) :
    take (given (before.map ofText)) (ofText argument) =
      .ok (given ((before ++ [argument]).map ofText)) := by
  rw [List.map_append, List.map_singleton]
  refine take_given ?_
  by_cases hhyphen : Opens "-" argument
  · exact .inl (isOption_iff.mp (not_not.mp fun hother => h (.inl ⟨hhyphen, hother⟩)))
  · refine .inr ⟨argument, HasForm.ofText_eq (.file hhyphen), latest?_file?_eq_none_iff.mpr ?_⟩
    exact fun earlier hmem => not_not.mp fun hplain => h (.inr ⟨hhyphen, earlier, hmem, hplain⟩)

/-- **An argument that offends is refused**, with what is said of its kind. -/
theorem take_of_offending (h : Offending before argument) :
    ∃ e, take (given (before.map ofText)) (ofText argument) = .error e ∧
      ∀ message, Complaint argument message ↔ message = e.message := by
  obtain ⟨hhyphen, hother⟩ | ⟨hplain, hearlier⟩ := h
  · rw [isOption_iff] at hother
    have hform := hasForm_ofText argument
    generalize ofText argument = form at hform hother
    cases hform with
    | stdin | incremental | debug | command | mypypath | cacheDirectory =>
      simp [Argument.isOption] at hother
    | format value =>
      have hnone : formatOf? value = none := by simpa [Argument.isOption] using hother
      exact ⟨.unknownFormat value, by simp [take, hnone], fun _ => complaint_format_iff⟩
    | unknown _ _ hopening =>
      have hopens := hopening "--format=" (by simp [openings])
      exact ⟨.unknownOption argument, rfl, fun _ => complaint_option_iff hhyphen hopens⟩
    | file hplain => exact absurd hhyphen hplain
  · rw [HasForm.ofText_eq (.file hplain)]
    obtain ⟨file, hfile⟩ : ∃ file, latest? file? (before.map ofText) = some file := by
      refine Option.ne_none_iff_exists'.mp fun hnone => ?_
      obtain ⟨earlier, hmem, hno⟩ := hearlier
      exact hno (latest?_file?_eq_none_iff.mp hnone earlier hmem)
    exact ⟨.unexpectedArgument argument, by simp [take, given, hfile],
      fun _ => complaint_extra_iff hplain⟩

/-! ### All arguments -/

/-- The run over some arguments from nothing. -/
def run (arguments : List String) : Except UsageError (CheckOptions × Option Path) :=
  (arguments.map ofText).foldlM take ({}, none)

/-- A run goes on from what was taken up. -/
theorem run_append_cons {state : CheckOptions × Option Path} (h : run before = .ok state)
    (argument : String) (after : List String) :
    run (before ++ argument :: after) =
      take state (ofText argument) >>= (after.map ofText).foldlM take := by
  rw [run, List.map_append, List.foldlM_append, ← run, h]
  rfl

/-- **A sound list is taken up as a whole.** -/
theorem run_of_sound (h : Sound arguments) : run arguments = .ok (given (arguments.map ofText)) := by
  induction arguments using List.reverseRecOn with
  | nil => rfl
  | append_singleton arguments last ih =>
    obtain ⟨hsound, hlast⟩ := sound_concat_iff.mp h
    rw [run_append_cons (ih hsound), take_of_not_offending hlast]
    rfl

/-- **At the leftmost argument that offends, the run ends**, whatever comes after it. -/
theorem run_of_offending (hsound : Sound before) (h : Offending before argument)
    (after : List String) :
    ∃ e, run (before ++ argument :: after) = .error e ∧
      ∀ message, Complaint argument message ↔ message = e.message := by
  obtain ⟨e, he, hmessage⟩ := take_of_offending h
  refine ⟨e, ?_, hmessage⟩
  rw [run_append_cons (run_of_sound hsound), he]
  rfl

end CheckOptions

end LintHost
