import LintHost.Proofs.CommandLine.Parsing

/-!
# The grammar of the command line

What a list of arguments means can be told without going through it: what is wrong with it by
`LintHost.Fails`, and otherwise which options it gives by `LintHost.Gives`. Both only ask which
arguments there are, and of the options with a value which occurrence is the last one
(`LintHost.lastOf?`). Going through the arguments gives the same
(`LintHost.CheckOptions.parse_eq_error_iff`, `LintHost.CheckOptions.parse_eq_ok_iff`), and two laws
follow, for which nothing has to be gone through again:

* arguments that are `LintHost.Reordered` give the same, since what `LintHost.Gives` asks for does not
  depend on their order;
* options that are `LintHost.Written` as arguments are read back: written in one order they give the
  options that they came from, and no option with a value occurs twice, so that any other order is
  one of those above.
-/

namespace LintHost

open Argument

/-! ### What a list of arguments means -/

/-- **What is wrong with a list of arguments**: the leftmost one that cannot be used or, where all
can be used, that there is no file. -/
inductive Fails : List String → String → Prop
  | offending {before after : List String} {argument message : String} (leftmost : Sound before)
    (offends : Offending before argument) (complaint : Complaint argument message) :
    Fails (before ++ argument :: after) message
  | missing {arguments : List String} (sound : Sound arguments)
    (noFile : ∀ argument ∈ arguments, Opens "-" argument) : Fails arguments "missing file path"

/-- The last of the arguments that start with an opening. -/
def lastOf? (opening : String) (arguments : List String) : Option String :=
  (arguments.filter (Opens opening ·)).getLast?

/-- **What a list of arguments gives**: the one argument without a hyphen in front is the file, a flag
is set where it occurs, and the last occurrence of an option with a value counts. -/
structure Gives (arguments : List String) (options : CheckOptions) : Prop where
  file : arguments.filter (¬Opens "-" ·) = [options.file.text]
  stdin : options.stdin = true ↔ "--stdin" ∈ arguments
  incremental : options.incremental = true ↔ "--incremental" ∈ arguments
  debug : options.debug = true ↔ "--debug" ∈ arguments
  command : lastOf? "--command=" arguments = options.command.map ("--command=" ++ ·)
  mypypath : lastOf? "--mypypath=" arguments = options.mypypath.map ("--mypypath=" ++ ·)
  cacheDirectory :
    lastOf? "--cache-dir=" arguments = options.cacheDirectory.map ("--cache-dir=" ++ ·)
  format : lastOf? "--format=" arguments = some ("--format=" ++ formatName options.format) ∨
    (lastOf? "--format=" arguments = none ∧ options.format = .text)

variable {arguments others : List String} {options : CheckOptions}

theorem formatName_injective : Function.Injective formatName := by
  intro format format' h
  cases format <;> cases format' <;> simp_all [formatName]

/-- **Only one record of options is given** by a list. -/
theorem Gives.unique {options' : CheckOptions} (h : Gives arguments options)
    (h' : Gives arguments options') : options = options' := by
  have hfile : options.file = options'.file := by
    have heq := h.file.symm.trans h'.file
    exact congrArg Path.mk (List.cons.inj heq).1
  have hstdin : options.stdin = options'.stdin := Bool.eq_iff_iff.mpr (h.stdin.trans h'.stdin.symm)
  have hincremental : options.incremental = options'.incremental :=
    Bool.eq_iff_iff.mpr (h.incremental.trans h'.incremental.symm)
  have hdebug : options.debug = options'.debug := Bool.eq_iff_iff.mpr (h.debug.trans h'.debug.symm)
  have hcommand : options.command = options'.command :=
    Option.map_injective (append_left_injective _) (h.command.symm.trans h'.command)
  have hmypypath : options.mypypath = options'.mypypath :=
    Option.map_injective (append_left_injective _) (h.mypypath.symm.trans h'.mypypath)
  have hcache : options.cacheDirectory = options'.cacheDirectory :=
    Option.map_injective (append_left_injective _) (h.cacheDirectory.symm.trans h'.cacheDirectory)
  have hformat : options.format = options'.format := by
    obtain hlast | ⟨hlast, htext⟩ := h.format <;> obtain hlast' | ⟨hlast', htext'⟩ := h'.format
    · have hword := Option.some.inj (hlast.symm.trans hlast')
      exact formatName_injective (append_left_cancel hword)
    · simp [hlast] at hlast'
    · simp [hlast] at hlast'
    · rw [htext, htext']
  cases options
  cases options'
  simp_all

/-- There is a file in what gives options. -/
theorem Gives.exists_file (h : Gives arguments options) :
    ∃ argument ∈ arguments, ¬Opens "-" argument := by
  have hmem : options.file.text ∈ arguments.filter (¬Opens "-" ·) := by
    rw [h.file]
    exact List.mem_singleton_self _
  obtain ⟨hmem, hplain⟩ := List.mem_filter.mp hmem
  exact ⟨_, hmem, of_decide_eq_true hplain⟩

namespace CheckOptions

/-! ### What is read -/

theorem lastOf?_eq {opening : String} (h : opening ∈ openings) (arguments : List String) :
    lastOf? opening arguments =
      (latest? (value? opening) (arguments.map ofText)).map (opening ++ ·) := by
  rw [lastOf?, filter_opens h, List.getLast?_map, latest?]

/-- In a sound list there is no file but the last. -/
theorem filter_of_sound (hsound : Sound arguments) {file : Path}
    (hfile : (given (arguments.map ofText)).2 = some file) :
    arguments.filter (¬Opens "-" ·) = [file.text] := by
  obtain ⟨text, htext, rfl⟩ := Option.map_eq_some_iff.mp hfile
  rw [latest?, ← filter_not_opens_hyphen] at htext
  obtain ⟨front, hfront⟩ := List.getLast?_eq_some_iff.mp htext
  have hfew := (sound_iff.mp hsound).2
  rw [hfront, List.length_append, List.length_singleton] at hfew
  rw [hfront, List.eq_nil_of_length_eq_zero (by omega : front.length = 0), List.nil_append]

/-- In a sound list a format that is asked for is one that there is. -/
theorem format_of_sound (hsound : Sound arguments) :
    lastOf? "--format=" arguments =
        some ("--format=" ++ formatName (given (arguments.map ofText)).1.format) ∨
      (lastOf? "--format=" arguments = none ∧ (given (arguments.map ofText)).1.format = .text) := by
  have hlast : lastOf? "--format=" arguments = _ := lastOf?_eq (by simp [openings]) arguments
  cases hvalue : latest? (value? "--format=") (arguments.map ofText) with
  | none =>
    refine .inr ⟨by rw [hlast, hvalue]; rfl, ?_⟩
    simp [given, hvalue]
  | some value =>
    rw [hvalue] at hlast
    have hmem : "--format=" ++ value ∈ arguments :=
      List.mem_of_mem_filter (List.mem_of_getLast? hlast)
    have hhyphen : Opens "-" ("--format=" ++ value) :=
      opens_hyphen_of_mem_openings (by simp [openings]) (opens_append _ _)
    obtain ⟨format, rfl⟩ := isOption_format_iff.mp ((sound_iff.mp hsound).1 _ hmem hhyphen)
    refine .inl (hlast.trans ?_)
    simp [given, hvalue, formatOf?_eq_some_iff.mpr rfl]

/-- **What is kept of a sound list with a file is what it gives.** -/
theorem gives_given (hsound : Sound arguments) {file : Path}
    (hfile : (given (arguments.map ofText)).2 = some file) :
    Gives arguments { (given (arguments.map ofText)).1 with file } where
  file := filter_of_sound hsound hfile
  stdin := decide_eq_true_iff.trans (mem_map_ofText_iff .stdin fun _ h => by cases h; rfl)
  incremental :=
    decide_eq_true_iff.trans (mem_map_ofText_iff .incremental fun _ h => by cases h; rfl)
  debug := decide_eq_true_iff.trans (mem_map_ofText_iff .debug fun _ h => by cases h; rfl)
  command := lastOf?_eq (by simp [openings]) arguments
  mypypath := lastOf?_eq (by simp [openings]) arguments
  cacheDirectory := lastOf?_eq (by simp [openings]) arguments
  format := format_of_sound hsound

/-- What is read once the arguments are gone through. -/
theorem parse_of_sound (hsound : Sound arguments) :
    parse arguments =
      match (given (arguments.map ofText)).2 with
      | some file => .ok { (given (arguments.map ofText)).1 with file }
      | none => .error .missingFile := by
  show run arguments >>= _ = _
  rw [run_of_sound hsound]
  rfl

theorem parse_of_run_eq_error {e : UsageError} (h : run arguments = .error e) :
    parse arguments = .error e := by
  show run arguments >>= _ = _
  rw [h]
  rfl

/-- **What is wrong** is what is reported. -/
theorem parse_eq_error_iff {message : String} :
    (∃ e, parse arguments = .error e ∧ e.message = message) ↔ Fails arguments message := by
  constructor
  · rintro ⟨e, he, rfl⟩
    obtain hsound | ⟨before, argument, after, rfl, hsound, hoffends⟩ :=
      sound_or_exists_offending arguments
    · rw [parse_of_sound hsound] at he
      split at he
      · cases he
      · next hnone =>
        cases he
        exact .missing hsound (latest?_file?_eq_none_iff.mp (Option.map_eq_none_iff.mp hnone))
    · obtain ⟨e', he', hmessage⟩ := run_of_offending hsound hoffends after
      rw [parse_of_run_eq_error he'] at he
      cases he
      exact .offending hsound hoffends ((hmessage _).mpr rfl)
  · intro h
    cases h with
    | @offending _ after _ _ hsound hoffends hcomplaint =>
      obtain ⟨e, he, hmessage⟩ := run_of_offending hsound hoffends after
      exact ⟨e, parse_of_run_eq_error he, ((hmessage _).mp hcomplaint).symm⟩
    | missing hsound hno =>
      refine ⟨.missingFile, ?_, rfl⟩
      have hnone : (given (arguments.map ofText)).2 = none :=
        Option.map_eq_none_iff.mpr (latest?_file?_eq_none_iff.mpr hno)
      rw [parse_of_sound hsound, hnone]

/-- **What is given** is what is read, from a list of which all can be used. -/
theorem parse_eq_ok_iff :
    parse arguments = .ok options ↔ Sound arguments ∧ Gives arguments options := by
  constructor
  · intro h
    obtain hsound | ⟨before, argument, after, rfl, hsound, hoffends⟩ :=
      sound_or_exists_offending arguments
    · rw [parse_of_sound hsound] at h
      split at h
      · next file hfile =>
        cases h
        exact ⟨hsound, gives_given hsound hfile⟩
      · cases h
    · obtain ⟨e, he, -⟩ := run_of_offending hsound hoffends after
      rw [parse_of_run_eq_error he] at h
      cases h
  · rintro ⟨hsound, hgives⟩
    obtain ⟨file, hfile⟩ : ∃ file, (given (arguments.map ofText)).2 = some file := by
      refine Option.ne_none_iff_exists'.mp fun hnone => ?_
      obtain ⟨argument, hmem, hplain⟩ := hgives.exists_file
      exact hplain (latest?_file?_eq_none_iff.mp (Option.map_eq_none_iff.mp hnone) argument hmem)
    rw [parse_of_sound hsound, hfile]
    exact congrArg Except.ok ((gives_given hsound hfile).unique hgives)

/-- **Which lists cannot be read**: those with an argument that offends, or without a file. -/
theorem parse_fails_iff :
    (∃ e, parse arguments = .error e) ↔
      (∃ before argument after, arguments = before ++ argument :: after ∧
        Offending before argument) ∨ ∀ argument ∈ arguments, Opens "-" argument := by
  constructor
  · rintro ⟨e, he⟩
    have hfails : Fails arguments e.message := parse_eq_error_iff.mp ⟨e, he, rfl⟩
    generalize e.message = message at hfails
    cases hfails with
    | offending _ offends => exact .inl ⟨_, _, _, rfl, offends⟩
    | missing _ noFile => exact .inr noFile
  · intro h
    cases hparse : parse arguments with
    | error e => exact ⟨e, rfl⟩
    | ok options =>
      obtain ⟨hsound, hgives⟩ := parse_eq_ok_iff.mp hparse
      obtain ⟨before, argument, after, hcut, hoffends⟩ | hno := h
      · exact absurd hoffends (hsound before argument after hcut)
      · obtain ⟨argument, hmem, hplain⟩ := hgives.exists_file
        exact absurd (hno argument hmem) hplain

end CheckOptions

/-! ### Another order -/

/-- **The same arguments in another order**, with that of the occurrences of one option kept. -/
structure Reordered (arguments others : List String) : Prop where
  perm : others.Perm arguments
  occurrences : ∀ opening ∈ openings,
    others.filter (Opens opening ·) = arguments.filter (Opens opening ·)

theorem Sound.perm (h : Sound arguments) (hperm : others.Perm arguments) : Sound others := by
  rw [sound_iff] at h ⊢
  refine ⟨fun argument hmem => h.1 argument (hperm.mem_iff.mp hmem), ?_⟩
  rw [(hperm.filter _).length_eq]
  exact h.2

theorem Reordered.lastOf?_eq (h : Reordered arguments others) {opening : String}
    (hmem : opening ∈ openings) : lastOf? opening others = lastOf? opening arguments := by
  rw [lastOf?, lastOf?, h.occurrences opening hmem]

theorem Gives.reordered (h : Gives arguments options) (hother : Reordered arguments others) :
    Gives others options where
  file := List.perm_singleton.mp (h.file ▸ hother.perm.filter _)
  stdin := h.stdin.trans hother.perm.mem_iff.symm
  incremental := h.incremental.trans hother.perm.mem_iff.symm
  debug := h.debug.trans hother.perm.mem_iff.symm
  command := (hother.lastOf?_eq (by simp [openings])).trans h.command
  mypypath := (hother.lastOf?_eq (by simp [openings])).trans h.mypypath
  cacheDirectory := (hother.lastOf?_eq (by simp [openings])).trans h.cacheDirectory
  format := by
    rw [hother.lastOf?_eq (by simp [openings])]
    exact h.format

/-- **The same is read in another order.** -/
theorem Reordered.parse_eq_ok (h : Reordered arguments others)
    (hparse : CheckOptions.parse arguments = .ok options) :
    CheckOptions.parse others = .ok options := by
  obtain ⟨hsound, hgives⟩ := CheckOptions.parse_eq_ok_iff.mp hparse
  exact CheckOptions.parse_eq_ok_iff.mpr ⟨hsound.perm h.perm, hgives.reordered h⟩

/-! ### Options that are written -/

namespace CheckOptions

/-- A flag, where it is set. -/
def flag (isSet : Bool) (word : String) : List String :=
  if isSet then [word] else []

/-- An option with a value, where it is set. -/
def setting (opening : String) (value : Option String) : List String :=
  (value.map (opening ++ ·)).toList

/-- The options that are set, as arguments, and a format if it is asked for. -/
def optionWords (options : CheckOptions) (format : Option OutputFormat) : List String :=
  flag options.stdin "--stdin" ++ flag options.incremental "--incremental" ++
    flag options.debug "--debug" ++ setting "--command=" options.command ++
    setting "--mypypath=" options.mypypath ++ setting "--cache-dir=" options.cacheDirectory ++
    setting "--format=" (format.map formatName)

/-- **Options as arguments, in any order**. The format may be left out where it is text. -/
def Written (options : CheckOptions) (arguments : List String) : Prop :=
  ∃ format, (format = some options.format ∨ (format = none ∧ options.format = .text)) ∧
    arguments.Perm (options.file.text :: optionWords options format)

variable {opening other word : String} {isSet : Bool} {value : Option String}
  {format : Option OutputFormat}

theorem mem_flag_iff : other ∈ flag isSet word ↔ isSet = true ∧ other = word := by
  cases isSet <;> simp [flag]

theorem mem_setting_iff :
    other ∈ setting opening value ↔ ∃ v, value = some v ∧ other = opening ++ v := by
  simp [setting, Option.mem_toList, eq_comm]

/-- All but the file are options. -/
theorem isOption_of_mem_optionWords (h : word ∈ optionWords options format) : IsOption word := by
  simp only [optionWords, List.mem_append, mem_flag_iff, mem_setting_iff] at h
  obtain (((((⟨-, rfl⟩ | ⟨-, rfl⟩) | ⟨-, rfl⟩) | ⟨v, -, rfl⟩) | ⟨v, -, rfl⟩) | ⟨v, -, rfl⟩) |
    ⟨name, hname, rfl⟩ := h
  · exact .stdin
  · exact .incremental
  · exact .debug
  · exact .command v
  · exact .mypypath v
  · exact .cacheDirectory v
  · obtain ⟨format, -, rfl⟩ := Option.map_eq_some_iff.mp hname
    exact .format format

theorem filter_flag (h : opening ∈ openings) (hword : word ∈ flags) (isSet : Bool) :
    (flag isSet word).filter (Opens opening ·) = [] := by
  cases isSet <;> simp [flag, not_opens_of_mem_flags h hword]

theorem filter_setting (h : opening ∈ openings) (hother : other ∈ openings)
    (value : Option String) :
    (setting other value).filter (Opens opening ·) =
      if opening = other then setting other value else [] := by
  cases value with
  | none => simp [setting]
  | some value =>
    simp only [setting, Option.map_some, Option.toList_some, List.filter_singleton,
      opens_append_iff h hother, Bool.cond_decide]

/-- The flags by their words. -/
def switches (options : CheckOptions) : List (String × Bool) :=
  [("--stdin", options.stdin), ("--incremental", options.incremental), ("--debug", options.debug)]

/-- The options with a value by their openings. -/
def entries (options : CheckOptions) (format : Option OutputFormat) :
    List (String × Option String) :=
  [("--command=", options.command), ("--mypypath=", options.mypypath),
    ("--cache-dir=", options.cacheDirectory), ("--format=", format.map formatName)]

theorem filter_optionWords (h : (opening, value) ∈ entries options format) :
    (optionWords options format).filter (Opens opening ·) = setting opening value := by
  simp only [entries, List.mem_cons, List.not_mem_nil, or_false, Prod.mk.injEq] at h
  obtain ⟨rfl, rfl⟩ | ⟨rfl, rfl⟩ | ⟨rfl, rfl⟩ | ⟨rfl, rfl⟩ := h <;>
    simp (disch := decide) [optionWords, filter_flag, filter_setting]

theorem not_mem_setting (h : opening ∈ openings) (hword : word ∈ flags) :
    word ∉ setting opening value := by
  rw [mem_setting_iff]
  rintro ⟨v, -, rfl⟩
  exact not_opens_of_mem_flags h hword (opens_append opening v)

theorem mem_optionWords_iff (h : (word, isSet) ∈ switches options) :
    word ∈ optionWords options format ↔ isSet = true := by
  simp only [switches, List.mem_cons, List.not_mem_nil, or_false, Prod.mk.injEq] at h
  obtain ⟨rfl, rfl⟩ | ⟨rfl, rfl⟩ | ⟨rfl, rfl⟩ := h <;>
    simp (disch := decide) [optionWords, mem_flag_iff, not_mem_setting]

/-- The file is the only argument without a hyphen in front. -/
theorem filter_not_opens_hyphen_written (hplain : ¬Opens "-" options.file.text)
    (format : Option OutputFormat) :
    (options.file.text :: optionWords options format).filter (¬Opens "-" ·) =
      [options.file.text] := by
  rw [List.filter_cons_of_pos (by simpa using hplain), List.filter_eq_nil_iff.mpr]
  intro word hword
  simpa using (isOption_of_mem_optionWords hword).opens_hyphen

/-- No value of an option is lost, and there is no other. -/
theorem filter_opens_written (hplain : ¬Opens "-" options.file.text)
    (h : (opening, value) ∈ entries options format) :
    (options.file.text :: optionWords options format).filter (Opens opening ·) =
      setting opening value := by
  have hopening : opening ∈ (entries options format).map (·.1) := List.mem_map.mpr ⟨_, h, rfl⟩
  rw [List.filter_cons_of_neg, filter_optionWords h]
  exact fun hopens =>
    hplain (opens_hyphen_of_mem_openings hopening (of_decide_eq_true hopens))

theorem lastOf?_written (hplain : ¬Opens "-" options.file.text)
    (h : (opening, value) ∈ entries options format) :
    lastOf? opening (options.file.text :: optionWords options format) =
      value.map (opening ++ ·) := by
  rw [lastOf?, filter_opens_written hplain h, setting]
  cases value <;> rfl

theorem mem_written_iff (hplain : ¬Opens "-" options.file.text)
    (h : (word, isSet) ∈ switches options) :
    isSet = true ↔ word ∈ options.file.text :: optionWords options format := by
  have hflag : word ∈ (switches options).map (·.1) := List.mem_map.mpr ⟨_, h, rfl⟩
  have hne : word ≠ options.file.text := fun heq =>
    hplain (heq ▸ opens_hyphen_of_mem_flags hflag)
  rw [List.mem_cons, or_iff_right hne, mem_optionWords_iff h]

/-- Options are read back from their arguments with the file first. -/
theorem parse_written (hplain : ¬Opens "-" options.file.text)
    (hformat : format = some options.format ∨ (format = none ∧ options.format = .text)) :
    parse (options.file.text :: optionWords options format) = .ok options := by
  refine parse_eq_ok_iff.mpr ⟨sound_iff.mpr ⟨fun argument hmem hhyphen => ?_, ?_⟩, ?_⟩
  · obtain rfl | hmem := List.mem_cons.mp hmem
    · exact absurd hhyphen hplain
    · exact isOption_of_mem_optionWords hmem
  · rw [filter_not_opens_hyphen_written hplain]
    exact Nat.le_refl 1
  · refine ⟨filter_not_opens_hyphen_written hplain format, ?_, ?_, ?_, ?_, ?_, ?_, ?_⟩
    · exact mem_written_iff hplain (by simp [switches])
    · exact mem_written_iff hplain (by simp [switches])
    · exact mem_written_iff hplain (by simp [switches])
    · exact lastOf?_written hplain (by simp [entries])
    · exact lastOf?_written hplain (by simp [entries])
    · exact lastOf?_written hplain (by simp [entries])
    · have hmem : ("--format=", format.map formatName) ∈ entries options format := by
        simp [entries]
      have hlast := lastOf?_written hplain hmem
      obtain rfl | ⟨rfl, htext⟩ := hformat
      · exact .inl hlast
      · exact .inr ⟨hlast, htext⟩

/-- The order of no more than one thing does not matter. -/
theorem eq_of_perm_toList {α : Type} {xs : List α} {x : Option α} (h : xs.Perm x.toList) :
    xs = x.toList := by
  cases x with
  | none => exact List.perm_nil.mp h
  | some x => exact List.perm_singleton.mp h

/-- **Options are read back from their arguments in any order.** -/
theorem parse_of_written (hplain : ¬Opens "-" options.file.text) (h : Written options arguments) :
    parse arguments = .ok options := by
  obtain ⟨format, hformat, hperm⟩ := h
  refine Reordered.parse_eq_ok ⟨hperm, fun opening hopening => ?_⟩ (parse_written hplain hformat)
  obtain ⟨⟨opening, value⟩, hentry, rfl⟩ :=
    List.mem_map.mp (show opening ∈ (entries options format).map (·.1) from hopening)
  -- Of each option there is at most one occurrence, so that there is no order to keep.
  have hfilter := hperm.filter (Opens opening ·)
  rw [filter_opens_written hplain hentry] at hfilter ⊢
  exact eq_of_perm_toList hfilter

/-! ### The grammar as a whole -/

/-- **The command line is read by an order-insensitive grammar.** A list of arguments cannot be read
where one of them offends or there is no file, and what is said then is about the leftmost one that
offends. From any other list are read the options that it gives. In another order, with that of the
occurrences of one option kept, the same options are read; and options whose file has no hyphen in
front are read back from their arguments in any order. -/
theorem parse_by_grammar (arguments : List String) :
    ((∃ e, parse arguments = .error e) ↔
      (∃ before argument after, arguments = before ++ argument :: after ∧
        Offending before argument) ∨ ∀ argument ∈ arguments, Opens "-" argument) ∧
    (∀ message, (∃ e, parse arguments = .error e ∧ e.message = message) ↔
      Fails arguments message) ∧
    (∀ options, parse arguments = .ok options ↔ Sound arguments ∧ Gives arguments options) ∧
    (∀ options others, parse arguments = .ok options → Reordered arguments others →
      parse others = .ok options) ∧
    ∀ options : CheckOptions, ¬Opens "-" options.file.text → Written options arguments →
      parse arguments = .ok options :=
  ⟨parse_fails_iff, fun _ => parse_eq_error_iff, fun _ => parse_eq_ok_iff,
    fun _ _ hparse hother => hother.parse_eq_ok hparse, fun _ => parse_of_written⟩

/-- The grammar on arguments whose values look like other options, with two options given twice. -/
theorem parse_by_grammar_overridden :
    let arguments := ["--format=json", "--command=--debug", "--cache-dir=-", "a.py",
      "--incremental", "--command=x=--stdin", "--format=text"]
    let others := ["--command=--debug", "--incremental", "--command=x=--stdin", "--format=json",
      "a.py", "--format=text", "--cache-dir=-"]
    let written := ["--cache-dir=-", "a.py", "--command=x=--stdin", "--incremental"]
    let options : CheckOptions :=
      { file := ⟨"a.py"⟩, command := "x=--stdin", incremental := true, cacheDirectory := "-" }
    (parse arguments = .ok options ∧ Reordered arguments others ∧ parse others = .ok options) ∧
      ¬Opens "-" options.file.text ∧ Written options written ∧ parse written = .ok options := by
  intro arguments others written options
  have hparse : parse arguments = .ok options := by rfl
  have hother : Reordered arguments others := ⟨by decide, by decide⟩
  have hplain : ¬Opens "-" options.file.text := by decide
  have hwritten : Written options written := ⟨none, .inr ⟨rfl, rfl⟩, by decide⟩
  obtain ⟨-, -, -, hreordered, -⟩ := parse_by_grammar arguments
  obtain ⟨-, -, -, -, hback⟩ := parse_by_grammar written
  exact ⟨⟨hparse, hother, hreordered options others hparse hother⟩, hplain, hwritten,
    hback options hplain hwritten⟩

end CheckOptions

end LintHost
