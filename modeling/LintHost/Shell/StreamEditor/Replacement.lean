import LintHost.Shell.StreamEditor.Script

/-!
# Replacing what is found

What a replacement stands for is put together from texts and from what groups have matched,
where the case of letters may be changed. A way to change one letter goes over from a group
that has matched nothing to what follows.

Matches are counted from the left. After one of them the search goes on at its end, and no
match is empty there; after an empty match one byte is left as it is, so the empty text is also found
inside characters.
-/

namespace LintHost.Shell.StreamEditor

/-! ### Letters -/

/-- A letter that is changed. -/
def LetterMode.letter : LetterMode → Char → Char
  | asIs, c => c
  | upper, c => Text.upperChar c
  | lower, c => Text.lowerOne c

/-- A glyph that is changed if it is a letter. -/
def LetterMode.glyph (mode : LetterMode) : Raw.Glyph → Raw.Glyph
  | .char c => .char (mode.letter c)
  | .stray byte => .stray byte

/-- Some glyphs of which the first one may be changed in a way of its own. -/
def changeLetters (first lasting : LetterMode) : List Raw.Glyph → List Raw.Glyph
  | [] => []
  | g :: gs =>
    (if first = .asIs then lasting else first).glyph g :: gs.map lasting.glyph

/-! ### Parts -/

/-- The part of a text that a group has matched. -/
def matchedBy (text : Array Raw.Glyph) (slots : Slots) (group : Nat) : List Raw.Glyph :=
  match (slots[2 * group]?).join, (slots[2 * group + 1]?).join with
  | some start, some stop => (text.extract start stop).toList
  | _, _ => []

/-- What the parts of a replacement stand for, where a way to change one letter may be left from
the part before. -/
def expandParts (text : Array Raw.Glyph) (slots : Slots) :
    LetterMode → List ReplacementPart → List Raw.Glyph
  | _, [] => []
  | left, part :: parts =>
    let first := if part.first = .asIs then left else part.first
    let fixed := Raw.glyphs part.text
    let firstOfMatch := if fixed.isEmpty then first else .asIs
    let matched := match part.group with
      | some group => matchedBy text slots group
      | none => []
    let goesOn := part.group.isSome && matched.isEmpty && part.first != .asIs
    changeLetters first part.mode fixed ++ changeLetters firstOfMatch part.mode matched ++
      expandParts text slots (if goesOn then firstOfMatch else .asIs) parts

/-! ### Substitutions -/

/-- What a text becomes from a place on, and whether something was replaced there. Given are
the end of the match before, how many matches there have been, and the bytes of a character
before the place that are still to be passed, at each of which the empty text is found. The
number of bytes is fuel enough. -/
def Substitution.replaceFrom (s : Substitution) (searcher : Searcher)
    (text : Array Raw.Glyph) : Nat → (start : Nat) → (before : Option Nat) → (count : Nat) →
      (inside : List Raw.Glyph) → List Raw.Glyph × Bool
  | 0, start, _, _, inside => (inside ++ (text.extract start text.size).toList, false)
  | fuel + 1, start, before, count, byte :: inside =>
    let (rest, hasMore) := s.replaceFrom searcher text fuel start before (count + 1) inside
    if count + 1 < s.number then (byte :: rest, hasMore)
    else
      let rest := if s.isGlobal then rest else inside ++ (text.extract start text.size).toList
      (expandParts text #[] .asIs s.parts ++ byte :: rest, true)
  | fuel + 1, start, before, count, [] =>
    match searcher.find? text start with
    | none => ((text.extract start text.size).toList, false)
    | some slots =>
      let offset := ((slots[0]?).join).getD start
      let stop := ((slots[1]?).join).getD offset
      let untouched := (text.extract start offset).toList
      let onward (count : Nat) : List Raw.Glyph × Bool :=
        if offset < stop then s.replaceFrom searcher text fuel stop (some stop) count []
        else match (text[stop]?).map fun g => (g, g.raw) with
          | none => ([], false)
          | some (g, bytes) =>
            let inside := if searcher.fitsInside then (bytes.drop 1).map .stray else []
            let passed := if inside.isEmpty then [g] else (bytes.take 1).map .stray
            let (rest, hasMore) :=
              s.replaceFrom searcher text fuel (stop + 1) (some stop) count inside
            (passed ++ rest, hasMore)
      if offset = stop ∧ before = some stop then
        let (rest, hasMore) := onward count
        (untouched ++ rest, hasMore)
      else if count + 1 < s.number then
        let (rest, hasMore) := onward (count + 1)
        (untouched ++ (text.extract offset stop).toList ++ rest, hasMore)
      else
        let replaced := untouched ++ expandParts text slots .asIs s.parts
        if s.isGlobal then (replaced ++ (onward (count + 1)).1, true)
        else (replaced ++ (text.extract stop text.size).toList, true)

/-- What a text becomes; none if nothing is replaced. -/
def Substitution.perform? (s : Substitution) (searcher : Searcher) (text : Raw) : Option Raw :=
  let glyphs := (Raw.glyphs text).toArray
  let (replaced, isChanged) :=
    s.replaceFrom searcher glyphs (2 * text.length + 2) 0 none 0 []
  if isChanged then some (Raw.ofGlyphs replaced) else none

/-! ### Characters for others -/

/-- A text in which every character that is the first one of a pair is replaced by the
second. -/
def transliterate (pairs : List (Raw.Glyph × Raw.Glyph)) (text : Raw) : Raw :=
  Raw.ofGlyphs ((Raw.glyphs text).map fun g => (pairs.lookup g).getD g)

/-! ### Showing characters -/

/-- A byte as it is shown. -/
def shownByte (c : Char) : List Char :=
  match [('\\', '\\'), ('\x07', 'a'), ('\x08', 'b'), ('\x0c', 'f'), ('\n', 'n'), ('\x0d', 'r'),
      ('\t', 't'), ('\x0b', 'v')].lookup c with
  | some letter => ['\\', letter]
  | none =>
    if ' ' ≤ c ∧ c ≤ '~' then [c]
    else
      let digit (n : Nat) : Char := Char.ofNat ('0'.toNat + n)
      ['\\', digit (c.toNat / 64), digit (c.toNat / 8 % 8), digit (c.toNat % 8)]

/-- Bytes as they are shown in lines of at most a given width, unless that is zero; the last
line is ended by a sign. Given is how much of the line is used already. -/
def shownBytes (width : Nat) : (used : Nat) → List Char → List Char
  | _, [] => ['$', '\n']
  | used, c :: cs =>
    let shown := shownByte c
    if width - 1 < used + shown.length ∧ width ≠ 0 then
      '\\' :: '\n' :: shown ++ shownBytes width shown.length cs
    else shown ++ shownBytes width (used + shown.length) cs

end LintHost.Shell.StreamEditor
