import LintHost.Json.Reader

/-!
# The grammar of JSON texts

What a JSON text is, is written down here production by production, as RFC 8259 has it, and
without any reading: a text belongs to a value if it can be put together from the parts of the
value with the brackets, the commas and the white space that the grammar allows.

| production | its texts |
|---|---|
| what stands between the quotes of a string | `LintHost.Json.TextForm` |
| sign, whole part, fraction and exponent | `LintHost.Json.SignForm` and those after it |
| a number | `LintHost.Json.NumberForm` |
| a value, the items of an array, the members of an object | `LintHost.Json.Form` |
| a text with nothing but white space around its value | `LintHost.Json.IsDocument` |

Only texts that have a value are derived: a surrogate that is alone is no character, and a number
too large for a double has no value.

The reader is **complete** for this grammar (`LintHost.Json.parse?_eq_some_of_isDocument`): a
text that the grammar derives is read as the value that it was derived for. Two things have to
be watched on the way. The reader takes as many digits as it can get, so what follows a number
must not go on with it (`LintHost.Json.EndsNumber`); and it works on fuel, of which two for each
character of a part are enough to read that part.
-/

namespace LintHost.Json

/-! ### White space and the texts of strings -/

/-- Any amount of white space, also none. -/
def IsSpace (cs : List Char) : Prop :=
  ∀ c ∈ cs, isSpace c = true

/-- **What stands between the quotes of a string**, and the characters that it stands for. -/
inductive TextForm : List Char → List Char → Prop
  | empty : TextForm [] []
  | unescaped {c : Char} {cs text : List Char} (hcontrol : 0x20 ≤ c.toNat) (hquote : c ≠ '"')
      (hescape : c ≠ '\\') (h : TextForm cs text) : TextForm (c :: cs) (c :: text)
  | escaped {e c : Char} {cs text : List Char} (hchar : shortEscape? e = some c)
      (h : TextForm cs text) : TextForm ('\\' :: e :: cs) (c :: text)
  /-- A code unit that is no surrogate. -/
  | codePoint {a b c d : Char} {unit : Nat} {cs text : List Char}
      (hunit : hex4? a b c d = some unit) (hrange : unit < 0xd800 ∨ 0xe000 ≤ unit)
      (h : TextForm cs text) :
      TextForm ('\\' :: 'u' :: a :: b :: c :: d :: cs) (Char.ofNat unit :: text)
  /-- The two surrogates of a character above the first plane. -/
  | pair {a b c d e f g i char : Char} {high low : Nat} {cs text : List Char}
      (hhigh : hex4? a b c d = some high) (hrange : 0xd800 ≤ high ∧ high < 0xdc00)
      (hlow : hex4? e f g i = some low) (hchar : pairedUnits? high low = some char)
      (h : TextForm cs text) :
      TextForm ('\\' :: 'u' :: a :: b :: c :: d :: '\\' :: 'u' :: e :: f :: g :: i :: cs)
        (char :: text)

/-! ### Numbers -/

/-- A sign that may be left out. -/
inductive SignForm : List Char → Bool → Prop
  | absent : SignForm [] false
  | minus : SignForm ['-'] true

/-- The digits before the point: a zero alone, or digits that do not start with one. -/
inductive WholeForm : List Char → Prop
  | zero : WholeForm ['0']
  | digits {c : Char} {cs : List Char} (hzero : c ≠ '0')
      (hdigits : ∀ d ∈ c :: cs, d.isDigit = true) : WholeForm (c :: cs)

/-- A point and digits after it, and these digits; or nothing. -/
inductive FractionForm : List Char → List Char → Prop
  | absent : FractionForm [] []
  | given {digits : List Char} (hne : digits ≠ []) (hdigits : ∀ d ∈ digits, d.isDigit = true) :
      FractionForm ('.' :: digits) digits

/-- An exponent with its value, or nothing. -/
inductive ExponentForm : List Char → Option Int → Prop
  | absent : ExponentForm [] none
  | unsigned {e : Char} {digits : List Char} (he : e = 'e' ∨ e = 'E') (hne : digits ≠ [])
      (hdigits : ∀ d ∈ digits, d.isDigit = true) :
      ExponentForm (e :: digits) (some (Nat.ofDigitChars 10 digits 0))
  | plus {e : Char} {digits : List Char} (he : e = 'e' ∨ e = 'E') (hne : digits ≠ [])
      (hdigits : ∀ d ∈ digits, d.isDigit = true) :
      ExponentForm (e :: '+' :: digits) (some (Nat.ofDigitChars 10 digits 0))
  | minus {e : Char} {digits : List Char} (he : e = 'e' ∨ e = 'E') (hne : digits ≠ [])
      (hdigits : ∀ d ∈ digits, d.isDigit = true) :
      ExponentForm (e :: '-' :: digits) (some (-Nat.ofDigitChars 10 digits 0))

/-- **A number**: its parts one after the other. -/
inductive NumberForm : List Char → JsonNumber → Prop
  | parts {sign whole point power fraction : List Char} {negative : Bool} {exponent : Option Int}
      {n : JsonNumber} (hsign : SignForm sign negative) (hwhole : WholeForm whole)
      (hfraction : FractionForm point fraction) (hexponent : ExponentForm power exponent)
      (hvalue : JsonNumber.ofDigits? negative whole fraction exponent = some n) :
      NumberForm (sign ++ (whole ++ (point ++ power))) n

/-! ### Values -/

/-- What the productions below are for: a value, the items of an array without its brackets, or
the members of an object without its braces. -/
inductive Part where
  | value (v : Json)
  | items (vs : List Json)
  | members (ms : List (String × Json))

/-- **The texts of a part.** Those of a value have no white space around them, while items and
members have their own. -/
inductive Form : List Char → Part → Prop
  | null : Form ['n', 'u', 'l', 'l'] (.value .null)
  | holds : Form ['t', 'r', 'u', 'e'] (.value (.bool true))
  | fails : Form ['f', 'a', 'l', 's', 'e'] (.value (.bool false))
  | number {cs : List Char} {n : JsonNumber} (h : NumberForm cs n) : Form cs (.value (.number n))
  | string {cs text : List Char} (h : TextForm cs text) :
      Form ('"' :: (cs ++ ['"'])) (.value (.string (String.ofList text)))
  | emptyArray {space : List Char} (hspace : IsSpace space) :
      Form ('[' :: (space ++ [']'])) (.value (.array []))
  | array {cs : List Char} {vs : List Json} (h : Form cs (.items vs)) :
      Form ('[' :: (cs ++ [']'])) (.value (.array vs))
  | emptyObject {space : List Char} (hspace : IsSpace space) :
      Form ('\x7b' :: (space ++ ['\x7d'])) (.value (.object []))
  | object {cs : List Char} {ms : List (String × Json)} (h : Form cs (.members ms)) :
      Form ('\x7b' :: (cs ++ ['\x7d'])) (.value (.object ms))
  | item {before cs after : List Char} {v : Json} (hbefore : IsSpace before)
      (h : Form cs (.value v)) (hafter : IsSpace after) :
      Form (before ++ (cs ++ after)) (.items [v])
  | items {before cs after more : List Char} {v : Json} {vs : List Json}
      (hbefore : IsSpace before) (h : Form cs (.value v)) (hafter : IsSpace after)
      (hmore : Form more (.items vs)) :
      Form (before ++ (cs ++ (after ++ ',' :: more))) (.items (v :: vs))
  | member {before key text left right cs after : List Char} {v : Json}
      (hbefore : IsSpace before) (hkey : TextForm key text) (hleft : IsSpace left)
      (hright : IsSpace right) (h : Form cs (.value v)) (hafter : IsSpace after) :
      Form (before ++ '"' :: (key ++ '"' :: (left ++ ':' :: (right ++ (cs ++ after)))))
        (.members [(String.ofList text, v)])
  | members {before key text left right cs after more : List Char} {v : Json}
      {ms : List (String × Json)} (hbefore : IsSpace before) (hkey : TextForm key text)
      (hleft : IsSpace left) (hright : IsSpace right) (h : Form cs (.value v))
      (hafter : IsSpace after) (hmore : Form more (.members ms)) :
      Form (before ++ '"' :: (key ++ '"' :: (left ++ ':' ::
          (right ++ (cs ++ (after ++ ',' :: more))))))
        (.members ((String.ofList text, v) :: ms))

/-- **A JSON document**: the text of a value, with white space around it. -/
def IsDocument (text : String) (v : Json) : Prop :=
  ∃ before cs after, IsSpace before ∧ Form cs (.value v) ∧ IsSpace after ∧
    text.toList = before ++ (cs ++ after)

/-! ### Reading white space and texts -/

theorem skipSpace_append {space : List Char} (h : IsSpace space) (cs : List Char) :
    skipSpace (space ++ cs) = skipSpace cs :=
  List.dropWhile_append_of_pos h

theorem skipSpace_eq_nil {space : List Char} (h : IsSpace space) : skipSpace space = [] := by
  rw [← List.append_nil space, skipSpace_append h]
  rfl

theorem skipSpace_cons {c : Char} (h : isSpace c = false) (cs : List Char) :
    skipSpace (c :: cs) = c :: cs :=
  List.dropWhile_cons_of_neg (by simp [h])

/-- **The text of a string is read up to its closing quote.** -/
theorem readText_append {cs text : List Char} (h : TextForm cs text) (rest : List Char) :
    readText (cs ++ '"' :: rest) = some (text, rest) := by
  induction h with
  | empty => rw [List.nil_append, readText.eq_2]
  | @unescaped c cs text hcontrol hquote hescape h ih =>
    rw [List.cons_append, readText.eq_5 c _ hquote (fun _ _ _ _ _ hc _ => hescape hc)
      (fun _ _ hc _ => hescape hc), if_neg (by simp [hescape]; omega), ih]
    rfl
  | @escaped e c cs text hchar h ih =>
    -- No escape with one letter begins with the letter of the longer ones.
    have hletter : e ≠ 'u' := by
      rintro rfl
      simp [shortEscape?] at hchar
    rw [List.cons_append, List.cons_append, readText.eq_4 e _ (fun _ _ _ _ _ he _ => hletter he),
      hchar, ih]
    rfl
  | @codePoint a b c d unit cs text hunit hrange h ih =>
    simp only [List.cons_append, readText.eq_3, hunit, Option.bind_eq_bind, Option.bind_some,
      if_pos hrange, ih]
  | @pair a b c d e f g i char high low cs text hhigh hrange hlow hchar h ih =>
    have hsurrogate : ¬(high < 0xd800 ∨ 0xe000 ≤ high) := by omega
    simp only [List.cons_append, readText.eq_3, hhigh, Option.bind_eq_bind, Option.bind_some,
      if_neg hsurrogate, if_pos hrange.2, hlow, hchar, ih]

/-! ### Reading numbers -/

/-- A text that does not go on with a number: it starts with no digit, point or exponent. -/
def EndsNumber (rest : List Char) : Prop :=
  ∀ c ∈ rest.head?, c.isDigit = false ∧ c ≠ '.' ∧ c ≠ 'e' ∧ c ≠ 'E'

theorem endsNumber_nil : EndsNumber [] := by
  simp [EndsNumber]

theorem endsNumber_cons {c : Char} (h : c.isDigit = false ∧ c ≠ '.' ∧ c ≠ 'e' ∧ c ≠ 'E')
    (rest : List Char) : EndsNumber (c :: rest) := by
  simpa [EndsNumber] using h

/-- White space does not go on with a number, nor does what may not go on with one itself. -/
theorem EndsNumber.append {space rest : List Char} (hspace : IsSpace space)
    (h : EndsNumber rest) : EndsNumber (space ++ rest) := by
  cases space with
  | nil => exact h
  | cons c space =>
    have hc := hspace c List.mem_cons_self
    refine endsNumber_cons ?_ _
    simp only [isSpace, Bool.or_eq_true, beq_iff_eq] at hc
    rcases hc with ((rfl | rfl) | rfl) | rfl <;> decide

theorem takeWhile_digits_append {digits rest : List Char}
    (hdigits : ∀ d ∈ digits, d.isDigit = true) (hrest : ∀ c ∈ rest.head?, c.isDigit = false) :
    (digits ++ rest).takeWhile Char.isDigit = digits ∧
      (digits ++ rest).dropWhile Char.isDigit = rest := by
  rw [List.takeWhile_append_of_pos hdigits, List.dropWhile_append_of_pos hdigits]
  cases rest with
  | nil => simp
  | cons c rest =>
    have hc : c.isDigit = false := hrest c rfl
    simp [hc]

/-- Digits are taken where no further digit follows. -/
theorem readWhole_append {whole rest : List Char} (h : WholeForm whole)
    (hrest : ∀ c ∈ rest.head?, c.isDigit = false) :
    readWhole (whole ++ rest) = some (whole, rest) := by
  cases h with
  | zero => rfl
  | @digits c cs hzero hdigits =>
    obtain ⟨htake, hdrop⟩ := takeWhile_digits_append hdigits hrest
    rw [List.cons_append] at htake hdrop ⊢
    rw [readWhole]
    · simp only [htake, hdrop, List.cons_ne_nil, if_false]
    · rintro _ ⟨⟩
      exact hzero rfl

theorem readFraction_append {point fraction rest : List Char} (h : FractionForm point fraction)
    (hrest : ∀ c ∈ rest.head?, c.isDigit = false ∧ c ≠ '.') :
    readFraction (point ++ rest) = some (fraction, rest) := by
  cases h with
  | absent =>
    rw [List.nil_append, readFraction]
    rintro rest' rfl
    exact (hrest '.' rfl).2 rfl
  | given hne hdigits =>
    obtain ⟨htake, hdrop⟩ := takeWhile_digits_append hdigits fun c hc => (hrest c hc).1
    simp only [List.cons_append, readFraction, htake, hdrop, if_neg hne]

theorem readExponent_append {power rest : List Char} {exponent : Option Int}
    (h : ExponentForm power exponent) (hrest : EndsNumber rest) :
    readExponent (power ++ rest) = some (exponent, rest) := by
  -- Digits that follow each other are no sign, so the sign is told apart by the first of them.
  have hnosign : ∀ {digits : List Char}, (∀ d ∈ digits, d.isDigit = true) → digits ≠ [] →
      ∃ d ds, digits = d :: ds ∧ d ≠ '-' ∧ d ≠ '+' := by
    intro digits hdigits hne
    obtain ⟨d, ds, rfl⟩ := List.exists_cons_of_ne_nil hne
    have hd := hdigits d List.mem_cons_self
    exact ⟨d, ds, rfl, by rintro rfl; simp at hd, by rintro rfl; simp at hd⟩
  cases h with
  | absent =>
    cases rest with
    | nil => rfl
    | cons c rest =>
      obtain ⟨-, -, hsmall, hlarge⟩ := hrest c rfl
      simp [readExponent.eq_def, hsmall, hlarge]
  | @unsigned e digits he hne hdigits =>
    obtain ⟨htake, hdrop⟩ := takeWhile_digits_append hdigits fun c hc => (hrest c hc).1
    obtain ⟨d, ds, rfl, hminus, hplus⟩ := hnosign hdigits hne
    rw [List.cons_append] at htake hdrop
    simp only [List.cons_append, readExponent, if_pos he]
    split
    · next heq => exact absurd (List.cons.inj heq).1 hminus
    · next heq => exact absurd (List.cons.inj heq).1 hplus
    · simp only [htake, hdrop, if_neg hne, Bool.false_eq_true, if_false]
  | plus he hne hdigits =>
    obtain ⟨htake, hdrop⟩ := takeWhile_digits_append hdigits fun c hc => (hrest c hc).1
    simp only [List.cons_append, readExponent, if_pos he, htake, hdrop, if_neg hne,
      Bool.false_eq_true, if_false]
  | minus he hne hdigits =>
    obtain ⟨htake, hdrop⟩ := takeWhile_digits_append hdigits fun c hc => (hrest c hc).1
    simp only [List.cons_append, readExponent, if_pos he, htake, hdrop, if_neg hne, if_true]

/-- An exponent begins with its letter, so it goes on with no digits and with no fraction. -/
theorem ExponentForm.head {power rest : List Char} {exponent : Option Int}
    (h : ExponentForm power exponent) (hrest : EndsNumber rest) :
    ∀ c ∈ (power ++ rest).head?, c.isDigit = false ∧ c ≠ '.' := by
  cases h with
  | absent => exact fun c hc => ⟨(hrest c hc).1, (hrest c hc).2.1⟩
  | unsigned he | plus he | minus he =>
    rintro c ⟨⟩
    rcases he with rfl | rfl <;> decide

/-- A fraction begins with its point, so it goes on with no digits. -/
theorem FractionForm.head {point fraction rest : List Char} (h : FractionForm point fraction)
    (hrest : ∀ c ∈ rest.head?, c.isDigit = false) :
    ∀ c ∈ (point ++ rest).head?, c.isDigit = false := by
  cases h with
  | absent => exact hrest
  | given =>
    rintro c ⟨⟩
    decide

/-- The digits before the point begin with a digit. -/
theorem WholeForm.exists_cons {whole : List Char} (h : WholeForm whole) :
    ∃ c cs, whole = c :: cs ∧ c.isDigit = true := by
  cases h with
  | zero => exact ⟨'0', [], rfl, by decide⟩
  | @digits c cs _ hdigits => exact ⟨c, cs, rfl, hdigits c List.mem_cons_self⟩

/-- A number after its sign, and what follows it. -/
def readUnsigned (negative : Bool) (cs : List Char) : Option (JsonNumber × List Char) := do
  let (whole, cs) ← readWhole cs
  let (fraction, cs) ← readFraction cs
  let (exponent, cs) ← readExponent cs
  some (← JsonNumber.ofDigits? negative whole fraction exponent, cs)

theorem readNumber_minus (cs : List Char) : readNumber ('-' :: cs) = readUnsigned true cs := rfl

theorem readNumber_of_ne {c : Char} (h : c ≠ '-') (cs : List Char) :
    readNumber (c :: cs) = readUnsigned false (c :: cs) := by
  unfold readNumber
  split
  next heq =>
    split at heq
    · next hcs => exact absurd (List.cons.inj hcs).1 h
    · obtain ⟨rfl, rfl⟩ := Prod.mk.inj heq
      rfl

/-- **A number is read up to what does not go on with it.** -/
theorem readNumber_append {cs rest : List Char} {n : JsonNumber} (h : NumberForm cs n)
    (hrest : EndsNumber rest) : readNumber (cs ++ rest) = some (n, rest) := by
  cases h with
  | @parts sign whole point power fraction negative exponent _ hsign hwhole hfraction hexponent
      hvalue =>
    have hpower := hexponent.head hrest
    have hpoint := hfraction.head fun c hc => (hpower c hc).1
    have hunsigned : readUnsigned negative (whole ++ (point ++ (power ++ rest))) =
        some (n, rest) := by
      simp only [readUnsigned, readWhole_append hwhole hpoint, readFraction_append hfraction hpower,
        readExponent_append hexponent hrest, hvalue, Option.bind_eq_bind, Option.bind_some]
    simp only [List.append_assoc]
    cases hsign with
    | minus =>
      rw [List.cons_append, readNumber_minus]
      exact hunsigned
    | absent =>
      obtain ⟨c, whole', rfl, hc⟩ := hwhole.exists_cons
      have hminus : c ≠ '-' := by
        rintro rfl
        simp at hc
      rw [List.nil_append, List.cons_append, readNumber_of_ne hminus]
      exact hunsigned

/-! ### Where a part begins -/

/-- A number begins with no white space. -/
theorem isSpace_eq_false {c : Char} (hc : c = '-' ∨ c.isDigit = true) : isSpace c = false := by
  cases hspace : isSpace c with
  | false => rfl
  | true =>
    simp only [isSpace, Bool.or_eq_true, beq_iff_eq] at hspace
    rcases hspace with ((rfl | rfl) | rfl) | rfl <;> simp at hc

/-- A number begins with a sign or a digit. -/
theorem NumberForm.exists_cons {cs : List Char} {n : JsonNumber} (h : NumberForm cs n) :
    ∃ c tail, cs = c :: tail ∧ (c = '-' ∨ c.isDigit = true) := by
  cases h with
  | parts hsign hwhole =>
    cases hsign with
    | minus => exact ⟨'-', _, rfl, Or.inl rfl⟩
    | absent =>
      obtain ⟨c, tail, rfl, hc⟩ := hwhole.exists_cons
      exact ⟨c, _, rfl, Or.inr hc⟩

/-- The text of a value begins with a character that is neither white space nor a bracket or
brace that closes. -/
theorem Form.value_cons {cs : List Char} {v : Json} (h : Form cs (.value v)) :
    ∃ c tail, cs = c :: tail ∧ isSpace c = false ∧ c ≠ ']' := by
  cases h with
  | number h =>
    obtain ⟨c, tail, rfl, hc⟩ := h.exists_cons
    refine ⟨c, tail, rfl, isSpace_eq_false hc, ?_⟩
    rintro rfl
    simp at hc
  | _ => exact ⟨_, _, rfl, by decide, by decide⟩

/-- The text of items begins with that of a value. -/
theorem Form.items_cons {cs : List Char} {vs : List Json} (h : Form cs (.items vs)) :
    ∃ before c tail, cs = before ++ c :: tail ∧ IsSpace before ∧ isSpace c = false ∧ c ≠ ']' := by
  cases h with
  | item hbefore h | items hbefore h =>
    obtain ⟨c, tail, rfl, hspace, hclose⟩ := h.value_cons
    exact ⟨_, c, _, rfl, hbefore, hspace, hclose⟩

/-- The text of members begins with the quote of a key. -/
theorem Form.members_cons {cs : List Char} {ms : List (String × Json)}
    (h : Form cs (.members ms)) : ∃ before tail, cs = before ++ '"' :: tail ∧ IsSpace before := by
  cases h with
  | member hbefore | members hbefore => exact ⟨_, _, rfl, hbefore⟩

/-! ### Reading values -/

theorem readValue_space {space : List Char} (h : IsSpace space) (fuel : Nat) (cs : List Char) :
    readValue fuel (space ++ cs) = readValue fuel cs := by
  cases fuel with
  | zero => rw [readValue, readValue]
  | succ fuel => rw [readValue, readValue, skipSpace_append h]

theorem readItems_space {space : List Char} (h : IsSpace space) (fuel : Nat) (cs : List Char) :
    readItems fuel (space ++ cs) = readItems fuel cs := by
  cases fuel with
  | zero => rw [readItems, readItems]
  | succ fuel => rw [readItems, readItems, readValue_space h]

theorem readMembers_space {space : List Char} (h : IsSpace space) (fuel : Nat) (cs : List Char) :
    readMembers fuel (space ++ cs) = readMembers fuel cs := by
  cases fuel with
  | zero => rw [readMembers, readMembers]
  | succ fuel => rw [readMembers, readMembers, skipSpace_append h]

/-- A sign or a digit begins a number. -/
theorem readValue_number {c : Char} (hc : c = '-' ∨ c.isDigit = true) (fuel : Nat)
    (cs : List Char) :
    readValue (fuel + 1) (c :: cs) =
      (readNumber (c :: cs)).map fun (n, rest) => (.number n, rest) := by
  rw [readValue, skipSpace_cons (isSpace_eq_false hc)]
  -- All other values begin with a letter, a quote, a bracket or a brace.
  split
  case h_7 => rfl
  all_goals
    next heq =>
      obtain ⟨rfl, -⟩ := List.cons.inj heq
      simp at hc

/-- A bracket that is not closed at once begins the items of an array. -/
theorem readValue_bracket {before tail : List Char} {c : Char} (hbefore : IsSpace before)
    (hspace : isSpace c = false) (hclose : c ≠ ']') (fuel : Nat) :
    readValue (fuel + 1) ('[' :: (before ++ c :: tail)) =
      (readItems fuel (before ++ c :: tail)).map fun (items, rest) => (.array items, rest) := by
  have hskip : skipSpace (before ++ c :: tail) = c :: tail := by
    rw [skipSpace_append hbefore, skipSpace_cons hspace]
  rw [readValue, skipSpace_cons (by decide), readItems_space hbefore]
  simp only [hskip]
  split
  · next heq => exact absurd (List.cons.inj heq).1 hclose
  · rfl

/-- A brace before a quote begins the members of an object. -/
theorem readValue_brace {before : List Char} (hbefore : IsSpace before) (fuel : Nat)
    (tail : List Char) :
    readValue (fuel + 1) ('\x7b' :: (before ++ '"' :: tail)) =
      (readMembers fuel (before ++ '"' :: tail)).map fun (ms, rest) => (.object ms, rest) := by
  have hskip : skipSpace (before ++ '"' :: tail) = '"' :: tail := by
    rw [skipSpace_append hbefore, skipSpace_cons (by decide)]
  rw [readValue, skipSpace_cons (by decide), readMembers_space hbefore]
  simp only [hskip]
  rfl

/-- **What it is to read a part**: with enough fuel all its text is taken and nothing more. -/
def Part.IsReadFrom (cs : List Char) : Part → Prop
  | .value v => ∀ fuel rest, 2 * cs.length ≤ fuel → EndsNumber rest →
      readValue fuel (cs ++ rest) = some (v, rest)
  | .items vs => ∀ fuel rest, 2 * cs.length < fuel →
      readItems fuel (cs ++ ']' :: rest) = some (vs, rest)
  | .members ms => ∀ fuel rest, 2 * cs.length < fuel →
      readMembers fuel (cs ++ '\x7d' :: rest) = some (ms, rest)

/-- **The reader is complete**: what the grammar derives for a part is read as that part. -/
theorem Form.isReadFrom {cs : List Char} {part : Part} (h : Form cs part) :
    part.IsReadFrom cs := by
  induction h with
  | null | holds | fails =>
    rintro (_ | fuel) rest hfuel -
    · simp at hfuel
    · rfl
  | @number cs n h =>
    obtain ⟨c, tail, rfl, hc⟩ := h.exists_cons
    rintro (_ | fuel) rest hfuel hrest
    · simp at hfuel
    · have hnumber := readNumber_append h hrest
      rw [List.cons_append] at hnumber ⊢
      rw [readValue_number hc, hnumber, Option.map_some]
  | @string cs text h =>
    rintro (_ | fuel) rest hfuel -
    · simp at hfuel
    · rw [List.cons_append, List.append_assoc, readValue, skipSpace_cons (by decide)]
      simp only [List.singleton_append, readText_append h, Option.map_some]
  | @emptyArray space hspace =>
    rintro (_ | fuel) rest hfuel -
    · simp at hfuel
    · rw [List.cons_append, List.append_assoc, readValue, skipSpace_cons (by decide)]
      simp only [skipSpace_append hspace]
      rfl
  | @array cs vs h ih =>
    rintro (_ | fuel) rest hfuel -
    · simp at hfuel
    · obtain ⟨before, c, tail, rfl, hbefore, hspace, hclose⟩ := h.items_cons
      have hitems := ih fuel rest (by simp at hfuel ⊢; omega)
      simp only [List.cons_append, List.append_assoc, List.nil_append] at hitems ⊢
      rw [readValue_bracket hbefore hspace hclose, hitems, Option.map_some]
  | @emptyObject space hspace =>
    rintro (_ | fuel) rest hfuel -
    · simp at hfuel
    · rw [List.cons_append, List.append_assoc, readValue, skipSpace_cons (by decide)]
      simp only [skipSpace_append hspace]
      rfl
  | @object cs ms h ih =>
    rintro (_ | fuel) rest hfuel -
    · simp at hfuel
    · obtain ⟨before, tail, rfl, hbefore⟩ := h.members_cons
      have hmembers := ih fuel rest (by simp at hfuel ⊢; omega)
      simp only [List.cons_append, List.append_assoc, List.nil_append] at hmembers ⊢
      rw [readValue_brace hbefore, hmembers, Option.map_some]
  | @item before cs after v hbefore h hafter ih =>
    rintro (_ | fuel) rest hfuel
    · simp at hfuel
    · have hvalue := ih fuel (after ++ ']' :: rest) (by simp at hfuel; omega)
        (EndsNumber.append hafter (endsNumber_cons (by decide) rest))
      simp only [List.append_assoc]
      rw [readItems_space hbefore, readItems, hvalue]
      simp only [Option.bind_eq_bind, Option.bind_some, skipSpace_append hafter]
      rfl
  | @items before cs after more v vs hbefore h hafter hmore ih ihmore =>
    rintro (_ | fuel) rest hfuel
    · simp at hfuel
    · have hvalue := ih fuel (after ++ ',' :: (more ++ ']' :: rest)) (by simp at hfuel; omega)
        (EndsNumber.append hafter (endsNumber_cons (by decide) _))
      have hitems := ihmore fuel rest (by simp at hfuel; omega)
      simp only [List.append_assoc, List.cons_append]
      rw [readItems_space hbefore, readItems, hvalue]
      simp only [Option.bind_eq_bind, Option.bind_some, skipSpace_append hafter,
        skipSpace_cons (by decide : isSpace ',' = false), hitems]
  | @member before key text left right cs after v hbefore hkey hleft hright h hafter ih =>
    rintro (_ | fuel) rest hfuel
    · simp at hfuel
    · have hvalue := ih fuel (after ++ '\x7d' :: rest) (by simp at hfuel; omega)
        (EndsNumber.append hafter (endsNumber_cons (by decide) rest))
      simp only [List.append_assoc, List.cons_append]
      rw [readMembers_space hbefore, readMembers, skipSpace_cons (by decide)]
      simp only [readText_append hkey, Option.bind_eq_bind, Option.bind_some,
        skipSpace_append hleft, skipSpace_cons (by decide : isSpace ':' = false),
        readValue_space hright, hvalue, skipSpace_append hafter,
        skipSpace_cons (by decide : isSpace '\x7d' = false)]
  | @members before key text left right cs after more v ms hbefore hkey hleft hright h hafter hmore
      ih ihmore =>
    rintro (_ | fuel) rest hfuel
    · simp at hfuel
    · have hvalue := ih fuel (after ++ ',' :: (more ++ '\x7d' :: rest)) (by simp at hfuel; omega)
        (EndsNumber.append hafter (endsNumber_cons (by decide) _))
      have hmembers := ihmore fuel rest (by simp at hfuel; omega)
      simp only [List.append_assoc, List.cons_append]
      rw [readMembers_space hbefore, readMembers, skipSpace_cons (by decide)]
      simp only [readText_append hkey, Option.bind_eq_bind, Option.bind_some,
        skipSpace_append hleft, skipSpace_cons (by decide : isSpace ':' = false),
        readValue_space hright, hvalue, skipSpace_append hafter,
        skipSpace_cons (by decide : isSpace ',' = false), hmembers]

/-- **Every JSON document is read as the value that it stands for.** -/
theorem parse?_eq_some_of_isDocument {text : String} {v : Json} (h : IsDocument text v) :
    parse? text = some v := by
  obtain ⟨before, cs, after, hbefore, hvalue, hafter, htext⟩ := h
  have hread := hvalue.isReadFrom (2 * text.toList.length + 2) after (by simp [htext]; omega)
    (by simpa using EndsNumber.append hafter endsNumber_nil)
  rw [← readValue_space hbefore, ← htext] at hread
  simp only [parse?, hread, Option.bind_eq_bind, Option.bind_some, skipSpace_eq_nil hafter, if_true]

end LintHost.Json
