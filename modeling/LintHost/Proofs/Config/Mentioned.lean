import LintHost.Proofs.Config.Storable

/-!
# The keys that a file mentions

What a file says to the linter is asked of the document that was read, but a user knows only lines.
This file says which keys the document has in terms of the lines: a key of a section is on a line
that is no comment, no header and no continuation of the value above, with the name of the section
in the last header before it (`LintHost.Ini.Reading.Writes`, `LintHost.Ini.Mentions`).

Each line adds the key that it writes and takes none away (`LintHost.Ini.Reading.hasKey_line`); so
after all of them the document has the keys that are mentioned (`LintHost.Ini.hasKey_parse_iff`).
What stands after the key makes no difference.

A key is lowered before it is stored, and lowering follows Unicode, where letters outside ASCII may
become letters of ASCII. There are two of them: the sign for kelvin becomes a `k`, and the capital I
with a dot becomes an `i`, but with a dot after it. A word without a `k` is therefore written in
nothing but the two cases of its own letters (`LintHost.Text.toLower_eq_word_iff`).
-/

namespace LintHost

/-! ### Words in any letter case -/

namespace Text

/-- A letter that nothing but its own two cases is lowered to: `k` is also what the sign for kelvin
becomes. -/
def IsPlainLetter (c : Char) : Prop :=
  'a' ≤ c ∧ c ≤ 'z' ∧ c ≠ 'k'

instance (c : Char) : Decidable (IsPlainLetter c) :=
  inferInstanceAs (Decidable (_ ∧ _ ∧ _))

theorem IsPlainLetter.toNat_bounds {c : Char} (h : IsPlainLetter c) :
    0x61 ≤ c.toNat ∧ c.toNat < 0x80 ∧ c.toNat ≠ 0x6b := by
  obtain ⟨hlow, hhigh, hne⟩ := h
  rw [Char.le_def, UInt32.le_iff_toNat_le] at hlow hhigh
  change 0x61 ≤ c.toNat at hlow
  change c.toNat ≤ 0x7a at hhigh
  exact ⟨hlow, by omega, fun h => hne (Char.toNat_inj.mp h)⟩

/-- The runs of the table leave what they cover outside ASCII, but for the sign for kelvin. -/
theorem lowerRuns_above :
    ∀ run ∈ Table.lowerRuns, run.last < 0x80 ∨ 0x80 + run.down ≤ run.first + run.up ∨
      run.first + run.up = 0x6b + run.down ∧ run.last = run.first := by
  decide +kernel

/-- A character outside ASCII is not lowered to plain letters. -/
theorem exists_mem_lowerChar {c : Char} (h : 0x80 ≤ c.toNat) :
    ∃ d ∈ lowerChar c, ¬IsPlainLetter d := by
  rw [lowerChar, if_neg (by omega)]
  split
  · exact ⟨'\u0307', by simp, by decide⟩
  · split
    · next run hrun =>
      refine ⟨_, List.mem_singleton_self _, fun hplain => ?_⟩
      have hcovers : run.first ≤ c.toNat ∧ c.toNat ≤ run.last := by
        have := List.find?_some hrun
        simp only [Table.LowerRun.covers, Bool.and_eq_true, decide_eq_true_eq] at this
        exact this.1
      have hrange := lowerRuns_above run (List.mem_of_find?_eq_some hrun)
      have hbounds := hplain.toNat_bounds
      -- A number that is no character gives the first one of all, which is no letter.
      rw [Char.toNat_ofNat] at hbounds
      split at hbounds <;> omega
    · exact ⟨c, List.mem_singleton_self _, fun hplain => by have := hplain.toNat_bounds; omega⟩

/-- **A plain word is written in its own letters only**, each of them in one of its two cases. -/
theorem toLower_eq_word_iff {cs word : List Char} (hword : ∀ c ∈ word, IsPlainLetter c) :
    toLower cs = word ↔ cs.map Char.toLower = word := by
  suffices hfrom : ∀ before, lowerFrom before cs = word ↔ cs.map Char.toLower = word from hfrom []
  induction cs generalizing word with
  | nil => exact fun _ => Iff.rfl
  | cons c cs ih =>
    intro before
    rw [lowerFrom, List.map_cons]
    by_cases hc : c.toNat < 0x80
    · have hsigma : c ≠ 'Σ' := by
        rintro rfl
        exact absurd hc (by decide)
      rw [if_neg hsigma, lowerChar, if_pos hc, List.singleton_append]
      cases word with
      | nil => simp
      | cons d word =>
        rw [List.cons.injEq, List.cons.injEq,
          ih (fun e he => hword e (List.mem_cons_of_mem _ he)) (c :: before)]
    · -- Neither side holds: what the character becomes is no letter of the word.
      rw [Nat.not_lt] at hc
      have hself : c.toLower = c := toLower_eq_self fun h => by
        have := toNat_of_isAlpha h
        omega
      constructor
      · intro h
        by_cases hsigma : c = 'Σ'
        · rw [if_pos hsigma] at h
          split at h <;> subst h <;> exact absurd (hword _ List.mem_cons_self) (by decide)
        · rw [if_neg hsigma] at h
          obtain ⟨d, hd, hnot⟩ := exists_mem_lowerChar hc
          exact absurd (hword d (h ▸ List.mem_append_left _ hd)) hnot
      · intro h
        have := (hword c.toLower (h ▸ List.mem_cons_self)).toNat_bounds
        rw [hself] at this
        omega

end Text

open Text

namespace Ini

/-! ### One line -/

namespace Reading

/-- A line that writes a key sets it in the section of the last header. -/
theorem document_line_of_writes {r : Reading} {raw written : List Char}
    (h : r.Writes raw written) :
    ∃ value, (r.line raw).document =
      r.document.set r.current (String.ofList (toLower written)) value := by
  rw [(Does.entry h).line_eq]
  exact ⟨_, rfl⟩

/-- Any other line leaves the keys of the document as they are. -/
theorem hasKey_line_of_not_writes {r : Reading} {raw : List Char}
    (h : ∀ written, ¬r.Writes raw written) (name key : String) :
    (r.line raw).document.hasKey name key = r.document.hasKey name key := by
  obtain ⟨a, hdoes⟩ := r.exists_does raw
  rw [hdoes.line_eq]
  cases hdoes with
  | blank => rfl
  | comment => rfl
  | continuation _ _ hopen =>
    -- The key of the value that is continued stands in the document already.
    obtain ⟨-, hget, -⟩ := continued?_eq_some_iff.mp hopen
    rw [Bool.eq_iff_iff, perform, Document.hasKey_set]
    refine or_iff_left_of_imp ?_
    rintro ⟨rfl, rfl⟩
    rw [Document.hasKey, hget]
    rfl
  | header => exact Document.hasKey_withSection _ _ _ _
  | unclosed => rfl
  | keyless => rfl
  | entry hwrites => exact absurd hwrites (h _)

/-- **One line** adds the key that it writes to the section of the last header, and takes nothing
away. -/
theorem hasKey_line (r : Reading) (raw : List Char) (name key : String) :
    (r.line raw).document.hasKey name key = true ↔
      r.document.hasKey name key = true ∨
        name = r.current ∧
          ∃ written, r.Writes raw written ∧ key = String.ofList (toLower written) := by
  by_cases hwrites : ∃ written, r.Writes raw written
  · obtain ⟨written, hwrites⟩ := hwrites
    obtain ⟨value, hdocument⟩ := document_line_of_writes hwrites
    rw [hdocument, Document.hasKey_set]
    refine or_congr_right (and_congr_right fun _ => ⟨fun h => ⟨written, hwrites, h⟩, ?_⟩)
    rintro ⟨other, hother, h⟩
    rwa [hwrites.unique hother]
  · rw [not_exists] at hwrites
    rw [hasKey_line_of_not_writes hwrites]
    exact (or_iff_left fun ⟨_, written, h, _⟩ => hwrites written h).symm

end Reading

/-! ### A whole text -/

/-- **A text mentions a key in a section**: one of its lines, read after those before it, writes the
key in letters of any case, below a header with the name of the section. -/
def Mentions (text name : String) (key : List Char) : Prop :=
  ∃ before raw after written, Text.lines text.toList = before ++ raw :: after ∧
    (before.foldl Reading.line {}).current = name ∧
    (before.foldl Reading.line {}).Writes raw written ∧ written.map Char.toLower = key

/-- **Reading lines** leaves the keys that were there and those that the lines write. -/
theorem Reading.hasKey_foldl_line (lines : List (List Char)) (r : Reading) (name key : String) :
    (lines.foldl Reading.line r).document.hasKey name key = true ↔
      r.document.hasKey name key = true ∨
        ∃ before raw after written, lines = before ++ raw :: after ∧
          (before.foldl Reading.line r).current = name ∧
          (before.foldl Reading.line r).Writes raw written ∧
          key = String.ofList (toLower written) := by
  induction lines using List.reverseRecOn with
  | nil =>
    refine (or_iff_left ?_).symm
    rintro ⟨before, raw, after, -, hlines, -⟩
    exact List.append_ne_nil_of_right_ne_nil _ (List.cons_ne_nil _ _) hlines.symm
  | append_singleton lines last ih =>
    rw [List.foldl_concat, hasKey_line, ih, or_assoc]
    refine or_congr_right ⟨?_, ?_⟩
    · rintro (⟨before, raw, after, written, rfl, h⟩ | ⟨rfl, written, hwrites, hkey⟩)
      · exact ⟨before, raw, after ++ [last], written, by simp, h⟩
      · exact ⟨lines, last, [], written, rfl, rfl, hwrites, hkey⟩
    · rintro ⟨before, raw, after, written, hlines, hname, hwrites, hkey⟩
      obtain rfl | ⟨after, last', rfl⟩ := after.eq_nil_or_concat'
      · obtain ⟨rfl, hlast⟩ := List.append_inj' hlines rfl
        obtain rfl := List.singleton_inj.mp hlast
        exact .inr ⟨hname.symm, written, hwrites, hkey⟩
      · rw [← List.cons_append, ← List.append_assoc] at hlines
        obtain ⟨rfl, -⟩ := List.append_inj' hlines rfl
        exact .inl ⟨before, raw, after, written, rfl, hname, hwrites, hkey⟩

/-- **The keys of a document** are those that the lines of its text mention, for a key in plain small
letters. -/
theorem hasKey_parse_iff {text name key : String} (hkey : ∀ c ∈ key.toList, IsPlainLetter c) :
    (parse text).hasKey name key = true ↔ Mentions text name key.toList := by
  have hwritten : ∀ written : List Char,
      key = String.ofList (toLower written) ↔ written.map Char.toLower = key.toList := by
    intro written
    rw [← toLower_eq_word_iff hkey, ← String.toList_inj, String.toList_ofList, eq_comm]
  have hstart : ¬(({} : Reading).document.hasKey name key = true) := by
    rw [Document.hasKey, Document.get?, Document.section?]
    simp
  rw [parse, Reading.hasKey_foldl_line, or_iff_right hstart, Mentions]
  simp only [hwritten]

/-- The key may be written in any case and have any value; a comment, the continuation of another
value and a section with another name do not mention it. -/
example :
    (parse "[mypy]\nINCREmental :\n").hasKey "mypy" "incremental" = true ∧
      (parse "[mypy]\n# incremental = 1\nplugins =\n  incremental\n[mypy-x]\nincremental\n").hasKey
        "mypy" "incremental" = false := by
  decide +kernel

end Ini

end LintHost
