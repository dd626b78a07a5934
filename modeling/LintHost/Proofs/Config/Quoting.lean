import LintHost.Proofs.Config.Command

/-!
# Commands written in quotes

A command is stored as one text, so whoever has a list of words and wants them run has to write them
down in a way in which they are told apart again. Here the ways to do so that need no thought about
the word are described without the scanner: a word of harmless characters stands for itself, and any
word at all can be put in single quotes, where a quote inside is closed, escaped and opened again
(`LintHost.Command.Form`). Between two words there is a gap, and before the first and after the last
there may be one (`LintHost.Command.Written`).

However the words are written, they are the ones that the text is split into
(`LintHost.Command.words?_eq_of_written`). So what `LintHost.Command.parse` says of the text depends
on the words alone (`LintHost.Command.parse_of_written_words`): quotes do not hide an operator, and an
empty word is a word.
-/

namespace LintHost

namespace Command

/-! ### How words are written -/

/-- A character without a meaning of its own: it neither separates words nor quotes anything. -/
def IsPlain (c : Char) : Prop :=
  c ∉ [' ', '\t', '\n', '"', '\'', '\\']

/-- **A word that stands for itself**: there is something of it, no comment starts with it, and its
characters are plain. -/
structure IsBare (word : List Char) : Prop where
  ne_nil : word ≠ []
  head_ne : word.head? ≠ some '#'
  plain : ∀ c ∈ word, IsPlain c

/-- A character inside single quotes. A quote closes them, stands there escaped, and opens them
again. -/
def enclosedChar (c : Char) : List Char :=
  if c = '\'' then ['\'', '\\', '\'', '\''] else [c]

/-- A word in single quotes. -/
def enclosed (word : List Char) : List Char :=
  '\'' :: (word.flatMap enclosedChar ++ ['\''])

/-- **How a word may be written.** -/
inductive Form (word : List Char) : List Char → Prop
  | bare (h : IsBare word) : Form word word
  | enclosed : Form word (enclosed word)

/-- What stands between words: blanks, tabs and line feeds. -/
def IsGap (gap : List Char) : Prop :=
  ∀ c ∈ gap, c = ' ' ∨ c = '\t' ∨ c = '\n'

/-- Words from the first one on, with gaps between them that are not empty. -/
inductive WrittenFrom : List (List Char) → List Char → Prop
  | nil : WrittenFrom [] []
  | last {word form : List Char} (hform : Form word form) : WrittenFrom [word] form
  | next {word form gap rest : List Char} {words : List (List Char)} (hform : Form word form)
      (hgap : IsGap gap) (hne : gap ≠ []) (hrest : WrittenFrom words rest) :
      WrittenFrom (word :: words) (form ++ gap ++ rest)

/-- **A text in which words are written**, with gaps around them. -/
def Written (words : List (List Char)) (text : List Char) : Prop :=
  ∃ gap rest, IsGap gap ∧ WrittenFrom words rest ∧ text = gap ++ rest

/-- Every list of words can be written: all of them in quotes, with a blank after each. -/
theorem exists_written (words : List (List Char)) : ∃ text, Written words text := by
  suffices hfrom : ∃ text, WrittenFrom words text by
    obtain ⟨text, htext⟩ := hfrom
    exact ⟨text, [], text, List.forall_mem_nil _, htext, rfl⟩
  induction words with
  | nil => exact ⟨[], .nil⟩
  | cons word words ih =>
    obtain ⟨rest, hrest⟩ := ih
    have hgap : IsGap [' '] := by
      intro c hc
      exact Or.inl (List.mem_singleton.mp hc)
    exact ⟨_, .next .enclosed hgap (List.cons_ne_nil _ _) hrest⟩

/-! ### What the scanner does with them -/

namespace Scan

theorem isSeparator_iff {c : Char} : isSeparator c = true ↔ c = ' ' ∨ c = '\t' ∨ c = '\n' := by
  simp only [isSeparator, Bool.or_eq_true, beq_iff_eq, or_assoc]

/-- A character that ends no word only changes the state. -/
theorem run_cons {state next : Scan} {c : Char} (h : state.step c = (none, next)) (cs : List Char) :
    run state (c :: cs) = run next cs := by
  rw [run, h]

theorem not_isSeparator_of_isPlain {c : Char} (h : IsPlain c) : ¬isSeparator c = true := by
  intro hseparator
  rcases isSeparator_iff.mp hseparator with rfl | rfl | rfl <;> exact h (by decide)

/-- A plain character is added to the word that is read. -/
theorem inWord_of_isPlain {read : List Char} {c : Char} (h : IsPlain c) :
    inWord read c = (none, word (read ++ [c])) := by
  have hseparator := not_isSeparator_of_isPlain h
  simp only [IsPlain, List.mem_cons, List.not_mem_nil, or_false, not_or] at h
  obtain ⟨-, -, -, hdouble, hsingle, hescape⟩ := h
  rw [inWord, if_neg hdouble, if_neg hsingle, if_neg hescape, if_neg hseparator]

theorem inWord_of_isSeparator {read : List Char} {c : Char} (h : c = ' ' ∨ c = '\t' ∨ c = '\n') :
    inWord read c = (some read, gap) := by
  rcases h with rfl | rfl | rfl <;> rfl

/-- Between words, a gap changes nothing. -/
theorem run_gap {space : List Char} (h : IsGap space) (cs : List Char) :
    run gap (space ++ cs) = run gap cs := by
  induction space with
  | nil => rfl
  | cons c space ih =>
    have hstep : gap.step c = (none, gap) := by
      rw [step, if_pos (isSeparator_iff.mpr (h c List.mem_cons_self))]
    rw [List.cons_append, run_cons hstep, ih fun d hd => h d (List.mem_cons_of_mem _ hd)]

theorem run_plain {cs : List Char} (h : ∀ c ∈ cs, IsPlain c) (read rest : List Char) :
    run (word read) (cs ++ rest) = run (word (read ++ cs)) rest := by
  induction cs generalizing read with
  | nil => rw [List.nil_append, List.append_nil]
  | cons c cs ih =>
    have hstep : (word read).step c = (none, word (read ++ [c])) :=
      inWord_of_isPlain (h c List.mem_cons_self)
    rw [List.cons_append, run_cons hstep, ih fun d hd => h d (List.mem_cons_of_mem _ hd),
      List.append_assoc, List.singleton_append]

/-- **Inside quotes** every character is added to the word, a quote by way of three other states. The
induction is on the word and not on its form, in which it has no fixed length. -/
theorem run_enclosed (cs read rest : List Char) :
    run (single read) (cs.flatMap enclosedChar ++ '\'' :: rest) =
      run (word (read ++ cs)) rest := by
  induction cs generalizing read with
  | nil => rw [List.append_nil, List.flatMap_nil, List.nil_append, run_cons rfl, if_pos rfl]
  | cons c cs ih =>
    rw [List.flatMap_cons, List.append_assoc, enclosedChar]
    by_cases hc : c = '\''
    · subst hc
      -- The four characters lead out of the quotes, to the escape, to the quote and in again.
      have hthrough : ∀ ds : List Char, run (single read) (['\'', '\\', '\'', '\''] ++ ds) =
          run (single (read ++ ['\''])) ds := fun ds => rfl
      rw [if_pos rfl, hthrough, ih, List.append_assoc, List.singleton_append]
    · have hstep : (single read).step c = (none, single (read ++ [c])) := by
        rw [step, if_neg hc]
      rw [if_neg hc, List.singleton_append, run_cons hstep, ih, List.append_assoc,
        List.singleton_append]

/-- **A written word is read as that word**, whichever form it has. -/
theorem run_form {cs form : List Char} (h : Form cs form) (rest : List Char) :
    run gap (form ++ rest) = run (word cs) rest := by
  cases h with
  | bare h =>
    obtain ⟨hne, hhead, hplain⟩ := h
    cases cs with
    | nil => exact absurd rfl hne
    | cons c cs =>
      have hc := hplain c List.mem_cons_self
      have hcomment : c ≠ '#' := by
        rintro rfl
        exact hhead rfl
      have hstep : gap.step c = (none, word [c]) := by
        rw [step, if_neg (not_isSeparator_of_isPlain hc), if_neg hcomment, inWord_of_isPlain hc,
          List.nil_append]
      rw [List.cons_append, run_cons hstep,
        run_plain fun d hd => hplain d (List.mem_cons_of_mem _ hd), List.singleton_append]
  | enclosed =>
    have hopen : gap.step '\'' = (none, single []) := rfl
    rw [enclosed, List.cons_append, run_cons hopen, List.append_assoc, List.singleton_append,
      run_enclosed, List.nil_append]

/-- A gap ends the word before it. -/
theorem run_word_gap {space : List Char} (h : IsGap space) (hne : space ≠ []) (read cs : List Char) :
    run (word read) (space ++ cs) = (run gap cs).map (read :: ·) := by
  cases space with
  | nil => exact absurd rfl hne
  | cons c space =>
    have hstep : (word read).step c = (some read, gap) :=
      inWord_of_isSeparator (h c List.mem_cons_self)
    rw [List.cons_append, run, hstep]
    exact congrArg (Option.map (read :: ·)) (run_gap (fun d hd => h d (List.mem_cons_of_mem _ hd)) cs)

theorem run_writtenFrom {words : List (List Char)} {text : List Char} (h : WrittenFrom words text) :
    run gap text = some words := by
  induction h with
  | nil => rfl
  | @last cs form hform =>
    rw [← List.append_nil form, run_form hform]
    rfl
  | next hform hgap hne _ ih =>
    rw [List.append_assoc, run_form hform, run_word_gap hgap hne, ih, Option.map_some]

end Scan

/-- **The words that are written are those that the text is split into.** -/
theorem words?_eq_of_written {words : List (List Char)} {text : List Char} (h : Written words text) :
    words? text = some words := by
  obtain ⟨space, rest, hspace, hrest, rfl⟩ := h
  rw [words?, Scan.run_gap hspace, Scan.run_writtenFrom hrest]

/-! ### What becomes of the command -/

/-- **Any words can be written as a command, and however they are written they come out again**, if
there are any and none of them is an operator of a shell. An operator is refused in quotes as well. -/
theorem parse_of_written_words (words : List String) :
    (∃ text : String, Written (words.map String.toList) text.toList) ∧
      ∀ text : String, Written (words.map String.toList) text.toList →
        parse text =
          if ∃ word ∈ words, word ∈ controlOperators then
            .error (.invalidCommand text .shellOperator)
          else if words = [] then .error .emptyCommand
          else .ok words := by
  constructor
  · obtain ⟨text, htext⟩ := exists_written (words.map String.toList)
    exact ⟨String.ofList text, by rwa [String.toList_ofList]⟩
  · intro text h
    have hwords := words?_eq_of_written h
    split
    · next hoperator =>
      obtain ⟨word, hword, hoperator⟩ := hoperator
      refine parse_of_refused (.shellOperator hwords (List.mem_map_of_mem hword) ?_)
      rwa [String.ofList_toList]
    · next hplain =>
      refine parse_of_splits ⟨?_, fun word hword hoperator => hplain ⟨word, hword, hoperator⟩⟩
      rw [hwords, Option.map_some, List.map_map]
      simp only [Function.comp_def, String.ofList_toList, List.map_id']

/-- A quote in a word, an empty word, a hash that starts no comment, and an operator in quotes. -/
example :
    words? "\t'it'\\''s' '' a#b '#' \n".toList =
      some ["it's".toList, [], "a#b".toList, "#".toList] ∧
    (parse "mypy '&&' a.py").toOption = none := by
  decide +kernel

end Command

end LintHost
