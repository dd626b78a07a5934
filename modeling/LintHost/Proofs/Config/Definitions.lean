import LintHost.Proofs.Config.Mentioned
import LintHost.Proofs.Sequence.Lasting

/-!
# The last definition of a key

A key may be defined more than once, in one section or in several with the same name. What counts is
the last line that defines it, together with the lines right after that line that continue its value:
of earlier definitions nothing is left, and a continuation belongs to the definition above it
(`LintHost.Ini.get?_parse_iff`).

The continuations are read off the lines that follow (`LintHost.Ini.continuations`): comments among
them are passed over, and the first line that is neither a comment nor indented ends them, as does a
blank one. Whether such a line belongs to the value depends on nothing that was read before, because
the key is open after the line that defines it and stays open.
-/

namespace LintHost

open Text

namespace Ini

/-- The lines that continue a value, of those that follow its definition. -/
def continuations : List (List Char) → List (List Char)
  | [] => []
  | raw :: rest =>
    if isComment (trim raw) then continuations rest
    else if isIndented raw ∧ trim raw ≠ [] then trim raw :: continuations rest
    else []

/-- The value that a line gives to its key, with the lines that continue it. -/
def definedValue (raw : List Char) (after : List (List Char)) : String :=
  String.ofList (join '\n' ((keyAndValue (trim raw)).2 :: continuations after))

namespace Reading

variable {r : Reading} {raw : List Char} {name key : String}

/-- **A line defines a key of a section**: it writes the key, and the section is the current one. -/
def Defines (r : Reading) (raw : List Char) (name key : String) : Prop :=
  r.current = name ∧ ∃ written, r.Writes raw written ∧ key = String.ofList (toLower written)

/-- A key of a section is open. -/
def IsOpen (r : Reading) (name key : String) : Prop :=
  r.current = name ∧ r.openKey = some key

theorem not_isOpen (h : r.openKey = none) : ¬r.IsOpen name key := by
  rw [IsOpen, h]
  simp

/-! ### One line -/

/-- A line that defines a key gives it a value, and leaves it open. -/
theorem Defines.line (h : r.Defines raw name key) :
    (r.line raw).IsOpen name key ∧
      (r.line raw).document.get? name key = some (String.ofList (keyAndValue (trim raw)).2) := by
  obtain ⟨rfl, written, hwrites, rfl⟩ := h
  rw [(Does.entry hwrites).line_eq]
  exact ⟨⟨rfl, rfl⟩, by rw [perform, Document.get?_set, if_pos ⟨rfl, rfl⟩]⟩

/-- **What a line does to a key that it does not define**, where the value and whether the key is open
are all that counts. -/
inductive Treats (r : Reading) (raw : List Char) (name key : String) : Prop
  /-- A comment does nothing. -/
  | comment (hcomment : isComment (trim raw) = true) (hline : r.line raw = r)
  /-- An indented line is put to the value, if the key is open, and the key stays open. -/
  | continued {value : String} (hcomment : isComment (trim raw) = false)
      (hindented : isIndented raw = true ∧ trim raw ≠ []) (hopen : r.IsOpen name key)
      (hvalue : r.document.get? name key = some value) (hstays : (r.line raw).IsOpen name key)
      (hlonger : (r.line raw).document.get? name key =
        some (value ++ "\n" ++ String.ofList (trim raw)))
  /-- Any other line leaves the value, and the key is not open after it. -/
  | left (hcomment : isComment (trim raw) = false)
      (hsame : (r.line raw).document.get? name key = r.document.get? name key)
      (hclosed : ¬(r.line raw).IsOpen name key)
      (hends : r.IsOpen name key → r.document.hasKey name key = true →
        ¬(isIndented raw = true ∧ trim raw ≠ []))

/-- An indented line continues the key that is open, if that has a value. -/
theorem not_isIndented_of_continued? (h : r.continued? raw = none) (hopen : r.IsOpen name key)
    (hkey : r.document.hasKey name key = true) : ¬(isIndented raw = true ∧ trim raw ≠ []) := by
  obtain ⟨rfl, hopen⟩ := hopen
  rintro ⟨hindent, -⟩
  obtain ⟨value, hvalue⟩ := Option.isSome_iff_exists.mp hkey
  rw [continued?_eq_some_iff.mpr ⟨hopen, hvalue, hindent⟩] at h
  simp at h

theorem treats (h : ¬r.Defines raw name key) : r.Treats raw name key := by
  obtain ⟨a, hdoes⟩ := r.exists_does raw
  have hline := hdoes.line_eq
  cases hdoes with
  | blank hblank =>
    refine .left (by rw [hblank]; rfl) ?_ ?_ fun _ _ hindented => hindented.2 hblank
    · rw [hline]
      rfl
    · exact not_isOpen (by rw [hline]; rfl)
  | comment hcomment => exact .comment hcomment hline
  | @continuation key' value hne hcomment hopen =>
    obtain ⟨hkey, hget, hindent⟩ := continued?_eq_some_iff.mp hopen
    by_cases hsame : name = r.current ∧ key = key'
    · obtain ⟨rfl, rfl⟩ := hsame
      refine .continued hcomment ⟨hindent, hne⟩ ⟨rfl, hkey⟩ hget ?_ ?_
      · rw [hline]
        exact ⟨rfl, rfl⟩
      · rw [hline, perform, Document.get?_set, if_pos ⟨rfl, rfl⟩]
    · -- The line continues the value of another key.
      have hother : ¬r.IsOpen name key := fun h =>
        hsame ⟨h.1.symm, Option.some.inj (h.2.symm.trans hkey)⟩
      refine .left hcomment ?_ ?_ fun h => absurd h hother
      · rw [hline, perform, Document.get?_set, if_neg hsame]
      · rw [hline]
        exact fun h => hother ⟨h.1, hkey.trans h.2⟩
  | header hheader hopen =>
    refine .left (by rw [hheader]; rfl) ?_ ?_ (not_isIndented_of_continued? hopen)
    · rw [hline]
      exact Document.get?_withSection _ _ _ _
    · exact not_isOpen (by rw [hline]; rfl)
  | unclosed hheader hopen =>
    refine .left (by rw [hheader]; rfl) ?_ ?_ (not_isIndented_of_continued? hopen)
    · rw [hline]
      rfl
    · exact not_isOpen (by rw [hline]; rfl)
  | keyless _ hcomment hopen =>
    refine .left hcomment ?_ ?_ (not_isIndented_of_continued? hopen)
    · rw [hline]
      rfl
    · exact not_isOpen (by rw [hline]; rfl)
  | @entry written hwrites =>
    have hother : ¬(name = r.current ∧ key = String.ofList (toLower written)) := fun hsame =>
      h ⟨hsame.1.symm, written, hwrites, hsame.2⟩
    refine .left hwrites.not_comment ?_ ?_ (not_isIndented_of_continued? hwrites.not_continued)
    · rw [hline, perform, Document.get?_set, if_neg hother]
    · rw [hline]
      exact fun h => hother ⟨h.1.symm, (Option.some.inj h.2).symm⟩

/-! ### Many lines -/

/-- None of some lines, read one after the other, defines a key. -/
def Undefined (r : Reading) (ls : List (List Char)) (name key : String) : Prop :=
  ∀ before raw after, ls = before ++ raw :: after → ¬(before.foldl line r).Defines raw name key

theorem Undefined.cons {ls : List (List Char)} (h : r.Undefined (raw :: ls) name key) :
    ¬r.Defines raw name key ∧ (r.line raw).Undefined ls name key :=
  ⟨h [] raw ls rfl, fun before raw' after hls => h (raw :: before) raw' after (by rw [hls]; rfl)⟩

/-- A key that is not open keeps its value as long as it is not defined. -/
theorem get?_foldl_of_not_isOpen {ls : List (List Char)} (hls : r.Undefined ls name key)
    (hclosed : ¬r.IsOpen name key) :
    (ls.foldl line r).document.get? name key = r.document.get? name key := by
  induction ls generalizing r with
  | nil => rfl
  | cons raw ls ih =>
    obtain ⟨hraw, hls⟩ := hls.cons
    rw [List.foldl_cons]
    cases treats hraw with
    | comment _ hline =>
      rw [hline] at hls ⊢
      exact ih hls hclosed
    | continued _ _ hopen => exact absurd hopen hclosed
    | left _ hsame hclosed' => rw [ih hls hclosed', hsame]

/-- **A key that is open** gets the lines that continue it, as long as it is not defined again. -/
theorem get?_foldl_of_isOpen {ls : List (List Char)} (hls : r.Undefined ls name key)
    (hopen : r.IsOpen name key) {value : List Char}
    (hvalue : r.document.get? name key = some (String.ofList value)) :
    (ls.foldl line r).document.get? name key =
      some (String.ofList (join '\n' (value :: continuations ls))) := by
  induction ls generalizing r value with
  | nil => exact hvalue
  | cons raw ls ih =>
    obtain ⟨hraw, hls⟩ := hls.cons
    rw [List.foldl_cons, continuations]
    cases treats hraw with
    | comment hcomment hline =>
      rw [hline] at hls ⊢
      rw [if_pos hcomment, ih hls hopen hvalue]
    | continued hcomment hindented _ hvalue' hstays hlonger =>
      -- The line becomes a part of the value, and those after it go on from there.
      obtain rfl := Option.some.inj (hvalue.symm.trans hvalue')
      have htext : String.ofList value ++ "\n" ++ String.ofList (trim raw) =
          String.ofList (value ++ '\n' :: trim raw) := String.toList_injective (by simp)
      rw [htext] at hlonger
      rw [if_neg (by rw [hcomment]; decide), if_pos hindented, ih hls hstays hlonger,
        join_append_cons]
    | left hcomment hsame hclosed hends =>
      have hkey : r.document.hasKey name key = true := by
        rw [Document.hasKey, hvalue]
        rfl
      rw [if_neg (by rw [hcomment]; decide), if_neg (hends hopen hkey),
        get?_foldl_of_not_isOpen hls hclosed, hsame, hvalue]
      rfl

/-- A document has a key exactly if a line defines it. -/
theorem hasKey_foldl_line_iff (ls : List (List Char)) (name key : String) :
    (ls.foldl line {}).document.hasKey name key = true ↔
      ∃ before raw after, ls = before ++ raw :: after ∧
        (before.foldl line {}).Defines raw name key := by
  have hstart : ¬({} : Reading).document.hasKey name key = true := by
    rw [Document.hasKey, Document.get?, Document.section?]
    simp
  rw [hasKey_foldl_line, or_iff_right hstart]
  constructor
  · rintro ⟨before, raw, after, written, hls, hname, hwrites, hkey⟩
    exact ⟨before, raw, after, hls, hname, written, hwrites, hkey⟩
  · rintro ⟨before, raw, after, hls, hname, written, hwrites, hkey⟩
    exact ⟨before, raw, after, written, hls, hname, hwrites, hkey⟩

end Reading

/-! ### A whole text -/

/-- **A line of a text is the last to define a key**, given the lines before it and those after. -/
structure LastDefines (text : String) (before : List (List Char)) (raw : List Char)
    (after : List (List Char)) (name key : String) : Prop where
  lines_eq : Text.lines text.toList = before ++ raw :: after
  defines : (before.foldl Reading.line {}).Defines raw name key
  last : ∀ between other rest, after = between ++ other :: rest →
    ¬((before ++ raw :: between).foldl Reading.line {}).Defines other name key

/-- The last definition gives the value. -/
theorem LastDefines.get?_eq {text : String} {before after : List (List Char)} {raw : List Char}
    {name key : String} (h : LastDefines text before raw after name key) :
    (parse text).get? name key = some (definedValue raw after) := by
  obtain ⟨hopen, hvalue⟩ := h.defines.line
  have hundefined : ((before.foldl Reading.line {}).line raw).Undefined after name key := by
    intro between other rest hafter
    have := h.last between other rest hafter
    rwa [List.foldl_append, List.foldl_cons] at this
  rw [parse, h.lines_eq, List.foldl_append, List.foldl_cons]
  exact Reading.get?_foldl_of_isOpen hundefined hopen hvalue

/-- **The value of a key** is what the last line that defines it gives it, with the lines that
continue that one; a key that no line defines has none. -/
theorem get?_parse_iff {text name key value : String} :
    (parse text).get? name key = some value ↔
      ∃ before raw after, LastDefines text before raw after name key ∧
        value = definedValue raw after := by
  constructor
  · intro hget
    have hkey : (parse text).hasKey name key = true := by
      rw [Document.hasKey, hget]
      rfl
    obtain ⟨before, raw, after, hls, hdefines, hlast⟩ :=
      exists_last_place ((Reading.hasKey_foldl_line_iff _ _ _).mp hkey)
    have hdefinition : LastDefines text before raw after name key := ⟨hls, hdefines, hlast⟩
    exact ⟨before, raw, after, hdefinition,
      Option.some.inj (hget.symm.trans hdefinition.get?_eq)⟩
  · rintro ⟨before, raw, after, hdefinition, rfl⟩
    exact hdefinition.get?_eq

end Ini

end LintHost
