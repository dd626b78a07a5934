import LintHost.Proofs.Config.Lines

/-!
# The layout of a configuration file

A file can be laid out in many ways that make no difference to what it says. Comment lines can stand
anywhere, indented or not, even between the lines of one value; white space at the end of a line is
not seen; and lines may end with a carriage return and a line feed as well as with a line feed alone.
`LintHost.Ini.Relaid` has a rule for each of these changes, and after any number of them the same
document is read (`LintHost.Ini.parse_of_relaid`), in the same order.

What carries this is that a line is told by what is left of it when it is trimmed and by whether it
is indented (`LintHost.Ini.Reading.line_congr`). The second matters only if anything is left, so a
blank line may become one of blanks; and a comment, unlike a blank line, leaves the open key open.
-/

namespace LintHost

open Text

namespace Ini

/-! ### Changes of the layout -/

/-- **A comment line**: its first visible character is one of the two marks. -/
def IsCommentLine (line : List Char) : Prop :=
  ∃ indent mark more, line = indent ++ mark :: more ∧ (∀ c ∈ indent, isBlank c = true) ∧
    (mark = '#' ∨ mark = ';') ∧ '\n' ∉ line

/-- What follows the end of a line: nothing, or one of the two ends of a line and other lines. -/
def AfterLine (after : List Char) : Prop :=
  after = [] ∨ (∃ rest, after = '\n' :: rest) ∨ ∃ rest, after = '\r' :: '\n' :: rest

/-- **One change of the layout** of a text. -/
inductive Relaid : List Char → List Char → Prop
  /-- A comment is put where a line starts. -/
  | comment {before after line : List Char} (hbefore : IsWhole before)
      (hline : IsCommentLine line) : Relaid (before ++ after) (before ++ (line ++ '\n' :: after))
  /-- A comment without an end is put after the last line. -/
  | lastComment {before line : List Char} (hbefore : IsWhole before) (hline : IsCommentLine line) :
      Relaid before (before ++ line)
  /-- The last line is ended, and a comment is put after it. -/
  | nextComment {before line : List Char} (hline : IsCommentLine line) :
      Relaid before (before ++ '\n' :: line)
  /-- White space is put at the end of a line. -/
  | blanks {before after blanks : List Char} (hblanks : ∀ c ∈ blanks, isBlank c = true ∧ c ≠ '\n')
      (hafter : AfterLine after) : Relaid (before ++ after) (before ++ blanks ++ after)
  /-- Every line feed gets a carriage return before it. -/
  | returns (text : List Char) : Relaid text (withReturns text)

/-! ### Reading on -/

namespace Reading

variable {r : Reading} {raw : List Char}

theorem line_of_isCommentLine (h : IsCommentLine raw) : r.line raw = r := by
  obtain ⟨indent, mark, more, rfl, hindent, hmark, -⟩ := h
  have hvisible : isBlank mark = false := by obtain rfl | rfl := hmark <;> decide
  have hcomment : isComment (trim (indent ++ mark :: more)) = true := by
    rw [isComment, head?_trim hindent hvisible]
    obtain rfl | rfl := hmark <;> decide
  exact (Does.comment hcomment).line_eq

theorem after_withReturns (r : Reading) (cs : List Char) : r.after (withReturns cs) = r.after cs := by
  induction cs using lineInduction generalizing r with
  | last raw hraw => rw [withReturns_of_not_mem hraw]
  | feed raw rest hraw ih =>
    rw [withReturns_feed hraw, after_returnFeed hraw, after_feed hraw, ih]

/-- A comment line between others. -/
theorem after_comment (h : IsCommentLine raw) (r : Reading) (rest : List Char) :
    r.after (raw ++ '\n' :: rest) = r.after rest := by
  obtain ⟨_, _, _, -, -, -, hraw⟩ := id h
  rw [after_feed hraw, line_of_isCommentLine h]

theorem document_after_comment (h : IsCommentLine raw) (r : Reading) :
    (r.after raw).document = r.document := by
  obtain ⟨_, _, _, -, -, -, hraw⟩ := id h
  rw [document_after_last hraw, line_of_isCommentLine h]

/-- White space at the end of the first line. -/
theorem document_after_blanks (hraw : '\n' ∉ raw) {blanks : List Char}
    (hblanks : ∀ c ∈ blanks, isBlank c = true ∧ c ≠ '\n') {rest : List Char} (hrest : AfterLine rest)
    (r : Reading) : (r.after (raw ++ blanks ++ rest)).document = (r.after (raw ++ rest)).document := by
  have hblank : ∀ c ∈ blanks, isBlank c = true := fun c hc => (hblanks c hc).1
  have hboth : '\n' ∉ raw ++ blanks := by
    rw [List.mem_append, not_or]
    exact ⟨hraw, fun hc => (hblanks _ hc).2 rfl⟩
  obtain rfl | ⟨rest, rfl⟩ | ⟨rest, rfl⟩ := hrest
  · rw [List.append_nil, List.append_nil, document_after_last hboth, document_after_last hraw,
      line_append_blanks hblank]
  · rw [after_feed hboth, after_feed hraw, line_append_blanks hblank]
  · rw [after_returnFeed hboth, after_returnFeed hraw, line_append_blanks hblank]

end Reading

/-! ### The same document -/

/-- One change of the layout leaves the document. -/
theorem Relaid.document_eq {text changed : List Char} (h : Relaid text changed) :
    (({} : Reading).after changed).document = (({} : Reading).after text).document := by
  cases h with
  | comment hbefore hline =>
    rw [Reading.after_append hbefore, Reading.after_append hbefore, Reading.after_comment hline]
  | lastComment hbefore hline =>
    rw [Reading.after_append hbefore, Reading.document_after_comment hline]
  | nextComment hline =>
    obtain ⟨front, last, rfl, hfront, hlast⟩ := exists_whole_append text
    rw [List.append_assoc, Reading.after_append hfront, Reading.after_append hfront,
      Reading.after_feed hlast, Reading.document_after_comment hline,
      Reading.document_after_last hlast]
  | blanks hblanks hafter =>
    rename_i before after blanks
    obtain ⟨front, last, rfl, hfront, hlast⟩ := exists_whole_append before
    simp only [List.append_assoc, Reading.after_append hfront]
    rw [← List.append_assoc, Reading.document_after_blanks hlast hblanks hafter]
  | returns => rw [Reading.after_withReturns]

/-- **The layout makes no difference**: a text and what it becomes by any number of changes of its
layout are read to the same document. -/
theorem parse_of_relaid {text changed : String}
    (h : Relation.ReflTransGen Relaid text.toList changed.toList) :
    parse changed = parse text := by
  suffices hdocument : ∀ cs, Relation.ReflTransGen Relaid text.toList cs →
      (({} : Reading).after cs).document = parse text from hdocument _ h
  intro cs hcs
  induction hcs with
  | refl => rfl
  | tail _ hstep ih => rw [hstep.document_eq, ih]

/-- A line that is empty but for its end, a comment between the lines of a value, and white space that
is not one of ASCII. -/
theorem parse_of_relaid_inside_value :
    let text := "[s]\n\nk =\n  a\n  b\n"
    let changed := "[s]\r\n\u00a0\r\nk =\r\n  a\r\n\t; c\r\n  b\r\n"
    Relation.ReflTransGen Relaid text.toList changed.toList ∧ parse changed = parse text ∧
      (parse changed).get? "s" "k" = some "\na\nb" := by
  intro text changed
  have hcomment : Relaid ("[s]\n\nk =\n  a\n".toList ++ "  b\n".toList)
      ("[s]\n\nk =\n  a\n".toList ++ ("\t; c".toList ++ '\n' :: "  b\n".toList)) :=
    .comment (Or.inr (by decide)) ⟨['\t'], ';', " c".toList, by decide,
      List.forall_mem_singleton.mpr (by decide), Or.inr rfl, by decide⟩
  have hblanks : Relaid ("[s]\n".toList ++ "\nk =\n  a\n\t; c\n  b\n".toList)
      ("[s]\n".toList ++ ['\u00a0'] ++ "\nk =\n  a\n\t; c\n  b\n".toList) :=
    .blanks (List.forall_mem_singleton.mpr (by decide))
      (Or.inr (Or.inl ⟨"k =\n  a\n\t; c\n  b\n".toList, by decide +kernel⟩))
  have hreturns := Relaid.returns ("[s]\n".toList ++ ['\u00a0'] ++
    "\nk =\n  a\n\t; c\n  b\n".toList)
  have hstart : "[s]\n\nk =\n  a\n".toList ++ "  b\n".toList = text.toList := by decide +kernel
  have hmiddle : "[s]\n\nk =\n  a\n".toList ++ ("\t; c".toList ++ '\n' :: "  b\n".toList) =
      "[s]\n".toList ++ "\nk =\n  a\n\t; c\n  b\n".toList := by decide +kernel
  have hend : withReturns ("[s]\n".toList ++ ['\u00a0'] ++
      "\nk =\n  a\n\t; c\n  b\n".toList) = changed.toList := by decide +kernel
  rw [hstart, hmiddle] at hcomment
  rw [hend] at hreturns
  have hchanged : Relation.ReflTransGen Relaid text.toList changed.toList :=
    ((Relation.ReflTransGen.single hcomment).tail hblanks).tail hreturns
  refine ⟨hchanged, parse_of_relaid hchanged, ?_⟩
  rw [parse_of_relaid hchanged]
  decide +kernel

end Ini

end LintHost
