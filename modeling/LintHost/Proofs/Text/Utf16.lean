import LintHost.Text.Utf16

/-!
# Reading UTF-16 back

A column counted in UTF-16 code units is a good one if whoever cuts the units of the line there
is left with whole characters. To say so, this file has a reader of units,
`LintHost.Text.decode16`, which refuses half of a pair that stands alone, and which gives back
every text from its units (`LintHost.Text.decode16_units`).

The columns that `LintHost.Text.utf16Column` computes are the places between the units of two
characters. From that the three facts follow that an editor relies on:

| fact | theorem |
|------|---------|
| no such column falls into a pair | `LintHost.Text.not_splitsPair` |
| between two of them stand the units of the characters between | `LintHost.Text.units_between` |
| different characters of a line have different columns, in their order | `LintHost.Text.utf16Column_lt` |
-/

namespace LintHost.Text

/-! ### Pairs -/

/-- A unit that is the first half of a pair. -/
def IsHigh (unit : Nat) : Prop := 0xd800 ≤ unit ∧ unit < 0xdc00

/-- A unit that is the second half of a pair. -/
def IsLow (unit : Nat) : Prop := 0xdc00 ≤ unit ∧ unit < 0xe000

instance (unit : Nat) : Decidable (IsHigh unit) := inferInstanceAs (Decidable (_ ∧ _))

instance (unit : Nat) : Decidable (IsLow unit) := inferInstanceAs (Decidable (_ ∧ _))

/-- The character that a pair stands for. -/
def ofPair (high low : Nat) : Char :=
  Char.ofNat (0x10000 + (high - 0xd800) * 0x400 + (low - 0xdc00))

/-- **A place inside a pair**: the unit before it is a first half, and the one after it the
second half that belongs to it. -/
def SplitsPair (units : List Nat) (place : Nat) : Prop :=
  ∃ before high low after, units = before ++ high :: low :: after ∧
    before.length + 1 = place ∧ IsHigh high ∧ IsLow low

/-! ### Reading units -/

/-- The text that some units spell; none if half of a pair stands alone among them, or if a
number is none of a unit. -/
def decode16 : List Nat → Option (List Char)
  | [] => some []
  | unit :: units =>
    if IsHigh unit then
      match units with
      | low :: units => if IsLow low then (decode16 units).map (ofPair unit low :: ·) else none
      | [] => none
    else if IsLow unit ∨ 0x10000 ≤ unit then none
    else (decode16 units).map (Char.ofNat unit :: ·)

/-- The units of a text. -/
def units (cs : List Char) : List Nat :=
  cs.flatMap encode16

@[simp] theorem units_nil : units [] = [] := rfl

@[simp] theorem units_cons (c : Char) (cs : List Char) : units (c :: cs) = encode16 c ++ units cs :=
  List.flatMap_cons

@[simp] theorem units_append (cs ds : List Char) : units (cs ++ ds) = units cs ++ units ds :=
  List.flatMap_append

theorem length_units (cs : List Char) : (units cs).length = length16 cs := by
  induction cs with
  | nil => rfl
  | cons c cs ih => rw [units_cons, List.length_append, length_encode16, ih, length16]

/-- **A character is one unit or a pair.** The number of no character is that of half a pair. -/
theorem encode16_cases (c : Char) :
    (encode16 c = [c.toNat] ∧ ¬IsHigh c.toNat ∧ ¬IsLow c.toNat ∧ c.toNat < 0x10000) ∨
      ∃ high low, encode16 c = [high, low] ∧ IsHigh high ∧ IsLow low ∧ ofPair high low = c := by
  have hvalid : c.toNat < 0xd800 ∨ 0xdfff < c.toNat ∧ c.toNat < 0x110000 := c.valid
  by_cases hplane : c.toNat < 0x10000
  · refine Or.inl ⟨by rw [encode16, if_pos hplane], ?_, ?_, hplane⟩
    · rw [IsHigh]
      omega
    · rw [IsLow]
      omega
  · refine Or.inr ⟨0xd800 + (c.toNat - 0x10000) / 0x400, 0xdc00 + (c.toNat - 0x10000) % 0x400,
      by rw [encode16, if_neg hplane], ?_, ?_, ?_⟩
    · rw [IsHigh]
      omega
    · rw [IsLow]
      omega
    · have hsum : 0x10000 + (0xd800 + (c.toNat - 0x10000) / 0x400 - 0xd800) * 0x400 +
          (0xdc00 + (c.toNat - 0x10000) % 0x400 - 0xdc00) = c.toNat := by omega
      rw [ofPair, hsum, Char.ofNat_toNat]

/-- The units of a character are read as the character. -/
theorem decode16_encode16_append (c : Char) (us : List Nat) :
    decode16 (encode16 c ++ us) = (decode16 us).map (c :: ·) := by
  obtain ⟨hunit, hhigh, hlow, hlt⟩ | ⟨high, low, hpair, hhigh, hlow, hc⟩ := encode16_cases c
  · have hread : ¬(IsLow c.toNat ∨ 0x10000 ≤ c.toNat) := by
      rintro (h | h)
      · exact hlow h
      · omega
    rw [hunit, List.singleton_append, decode16.eq_def]
    simp only [if_neg hhigh, if_neg hread, Char.ofNat_toNat]
  · rw [hpair, List.cons_append, List.singleton_append, decode16.eq_def]
    simp only [if_pos hhigh, if_pos hlow, hc]

/-- **A text is read back from its units.** -/
theorem decode16_units (cs : List Char) : decode16 (units cs) = some cs := by
  induction cs with
  | nil => rfl
  | cons c cs ih => rw [units_cons, decode16_encode16_append, ih, Option.map_some]

/-- The units of a text do not begin with a second half. -/
theorem not_isLow_of_units_eq_cons {cs : List Char} {unit : Nat} {us : List Nat}
    (h : units cs = unit :: us) : ¬IsLow unit := by
  cases cs with
  | nil => simp at h
  | cons c cs =>
    rw [units_cons] at h
    obtain ⟨hunit, -, hlow, -⟩ | ⟨high, low, hpair, hhigh, -, -⟩ := encode16_cases c
    · rw [hunit, List.singleton_append] at h
      obtain rfl := (List.cons.inj h).1
      exact hlow
    · rw [hpair, List.cons_append] at h
      obtain rfl := (List.cons.inj h).1
      rw [IsHigh] at hhigh
      rw [IsLow]
      omega

/-! ### Columns -/

theorem length16_append (cs ds : List Char) :
    length16 (cs ++ ds) = length16 cs + length16 ds := by
  rw [← length_units, units_append, List.length_append, length_units, length_units]

/-- A text has at least one unit for each character. -/
theorem length_le_length16 (cs : List Char) : cs.length ≤ length16 cs := by
  induction cs with
  | nil => exact Nat.le_refl 0
  | cons c cs ih =>
    have hc : 1 ≤ units16 c := by
      rw [units16]
      split <;> decide
    rw [length16, List.length_cons]
    omega

/-- A text has at most two units for each character. -/
theorem length16_le (cs : List Char) : length16 cs ≤ 2 * cs.length := by
  induction cs with
  | nil => exact Nat.le_refl 0
  | cons c cs ih =>
    have hc : units16 c ≤ 2 := by
      rw [units16]
      split <;> decide
    rw [length16, List.length_cons]
    omega

/-- **From one column to a later one** there are as many units as the characters between have. -/
theorem utf16Column_eq_add (line : List Char) {first last : Nat} (h : first ≤ last) :
    utf16Column line last =
      utf16Column line first + length16 ((line.drop first).take (last - first)) := by
  obtain ⟨count, rfl⟩ := Nat.exists_eq_add_of_le h
  rw [utf16Column, utf16Column, List.take_add, length16_append, Nat.add_sub_cancel_left]

theorem utf16Column_le (line : List Char) (column : Nat) :
    utf16Column line column ≤ length16 line := by
  have hwhole : length16 line = utf16Column line column + length16 (line.drop column) := by
    rw [utf16Column, ← length16_append, List.take_append_drop]
  omega

/-- **Characters of a line have columns in their order**, no two the same one. -/
theorem utf16Column_lt {line : List Char} {first last : Nat} (h : first < last)
    (hlast : last ≤ line.length) : utf16Column line first < utf16Column line last := by
  have hunits := length_le_length16 ((line.drop first).take (last - first))
  rw [List.length_take, List.length_drop] at hunits
  rw [utf16Column_eq_add line (Nat.le_of_lt h)]
  omega

/-- The units of a line, cut at a column. -/
theorem units_eq_append (line : List Char) (column : Nat) :
    units line = units (line.take column) ++ units (line.drop column) := by
  rw [← units_append, List.take_append_drop]

/-- **Between two columns stand the units of the characters between.** -/
theorem units_between (line : List Char) {first last : Nat} (h : first ≤ last) :
    ((units line).drop (utf16Column line first)).take
        (utf16Column line last - utf16Column line first) =
      units ((line.drop first).take (last - first)) := by
  have hfirst : (units line).drop (utf16Column line first) = units (line.drop first) := by
    rw [units_eq_append line first, utf16Column, ← length_units, List.drop_left]
  rw [hfirst, utf16Column_eq_add line h, Nat.add_sub_cancel_left,
    units_eq_append (line.drop first) (last - first), ← length_units, List.take_left]

/-- **No column falls into a pair**: what follows it begins a character. -/
theorem not_splitsPair (line : List Char) (column : Nat) :
    ¬SplitsPair (units line) (utf16Column line column) := by
  rintro ⟨before, high, low, after, hunits, hplace, -, hlow⟩
  rw [units_eq_append line column, List.append_cons] at hunits
  have hlength : (units (line.take column)).length = (before ++ [high]).length := by
    rw [length_units, ← utf16Column, ← hplace, List.length_append, List.length_singleton]
  exact not_isLow_of_units_eq_cons (List.append_inj_right hunits hlength) hlow

/-- The pair of the first character ends where the second character begins. -/
example : utf16Column "😀x".toList 1 = 2 ∧ SplitsPair (units "😀x".toList) 1 :=
  ⟨by decide, [], 0xd83d, 0xde00, [0x78], by decide, rfl, by decide, by decide⟩

end LintHost.Text
