import LintHost.Shell.Regex

/-!
# Reading regular expressions

Regular expressions as they are written, in the basic and in the extended notation. In the
basic one a group, an interval and the marks for alternatives and for further repetitions have
a backslash before them, anchors count only at the ends of what they could anchor, and a
repetition of nothing stands for itself. In the extended one all of them are plain.

An expression is cut into tokens one at a time, `Source.token`, and what a character means
depends on what stands around it.
-/

namespace LintHost.Shell.Regex

open Raw (Glyph)

/-! ### Faults -/

/-- Why an expression cannot be read. -/
inductive Fault where
  | invalid
  | unmatchedBracket
  | unmatchedOpening
  | unmatchedClosing
  | unmatchedBrace
  | badInterval
  | badRange
  | badRepetition
  | badClass
  | badCollation
  | badReference
  | trailingBackslash
  | tooBig
  /-- The name of a class between single brackets. -/
  | confusingClass
deriving DecidableEq, Inhabited

/-- The wording of a fault. -/
def Fault.message : Fault → String
  | .invalid => "Invalid regular expression"
  | .unmatchedBracket => "Unmatched [, [^, [:, [., or [="
  | .unmatchedOpening => "Unmatched ( or \\("
  | .unmatchedClosing => "Unmatched ) or \\)"
  | .unmatchedBrace => "Unmatched \\\x7b"
  | .badInterval => "Invalid content of \\\x7b\\\x7d"
  | .badRange => "Invalid range end"
  | .badRepetition => "Invalid preceding regular expression"
  | .badClass => "Invalid character class name"
  | .badCollation => "Invalid collation character"
  | .badReference => "Invalid back reference"
  | .trailingBackslash => "Trailing backslash"
  | .tooBig => "Regular expression too big"
  | .confusingClass => "character class syntax is [[:space:]], not [:space:]"

/-! ### Tokens -/

/-- What an expression is cut into. -/
inductive Token where
  | ending
  | one (c : OneChar)
  | opening
  | closing
  | bar
  | star
  | plus
  | question
  | openInterval
  | closeInterval
  | bracket
  | reference (number : Nat)
  | anchor (a : Assertion)
  | trailingBackslash
deriving DecidableEq, Inhabited

/-- An expression that is being read. -/
structure Source where
  isExtended : Bool
  rest : List Glyph
  /-- Whether nothing has been read yet. -/
  isAtStart : Bool := true
  /-- How many groups have been opened. -/
  groups : Nat := 0
  /-- The groups that have been closed. -/
  closed : List Nat := []
deriving Inhabited

/-- The token of a character after a backslash. -/
def escapedToken (isExtended : Bool) (g : Glyph) : Token :=
  let basic (token : Token) : Token := if isExtended then .one (.glyph g) else token
  match g with
  | .char c =>
    match c with
    | '|' => basic .bar
    | '(' => basic .opening
    | ')' => basic .closing
    | '+' => basic .plus
    | '?' => basic .question
    | '\x7b' => basic .openInterval
    | '\x7d' => basic .closeInterval
    | '<' => .anchor .wordStart
    | '>' => .anchor .wordEnd
    | 'b' => .anchor .wordEdge
    | 'B' => .anchor .noWordEdge
    | '\x60' => .anchor .textStart
    | '\'' => .anchor .textEnd
    | 'w' => .one (.word false)
    | 'W' => .one (.word true)
    | 's' => .one (.blank false)
    | 'S' => .one (.blank true)
    | c =>
      if '1' ≤ c ∧ c ≤ '9' then .reference (c.toNat - '0'.toNat) else .one (.glyph g)
  | .stray _ => .one (.glyph g)

/-- Whether a dollar sign before the rest of an expression is an anchor in the basic
notation. -/
def endsBefore : List Glyph → Bool
  | [] => true
  | .char '\\' :: .char c :: _ => c == '|' || c == ')'
  | _ => false

/-- The next token and what follows it. After an opening of something a caret is an anchor. -/
def Source.token (s : Source) (isOpen : Bool) : Token × List Glyph :=
  let extended (token : Token) (g : Glyph) : Token :=
    if s.isExtended then token else .one (.glyph g)
  match s.rest with
  | [] => (.ending, [])
  | .char '\\' :: [] => (.trailingBackslash, [])
  | .char '\\' :: g :: rest => (escapedToken s.isExtended g, rest)
  | g :: rest =>
    let token : Token := match g with
      | .char '*' => .star
      | .char '.' => .one .any
      | .char '[' => .bracket
      | .char '|' => extended .bar g
      | .char '(' => extended .opening g
      | .char ')' => extended .closing g
      | .char '+' => extended .plus g
      | .char '?' => extended .question g
      | .char '\x7b' => extended .openInterval g
      | .char '\x7d' => extended .closeInterval g
      | .char '^' =>
        if s.isExtended ∨ s.isAtStart ∨ isOpen then .anchor .lineStart else .one (.glyph g)
      | .char '$' =>
        if s.isExtended ∨ endsBefore rest then .anchor .lineEnd else .one (.glyph g)
      | g => .one (.glyph g)
    (token, rest)

/-- A reader of an expression. -/
abbrev Reading := StateT Source (Except Fault)

/-- The next token, which is not taken. -/
def peek (isOpen : Bool) : Reading Token := do
  return ((← get).token isOpen).1

/-- Takes the next token. -/
def take (isOpen : Bool) : Reading Token :=
  modifyGet fun s =>
    let (token, rest) := s.token isOpen
    (token, { s with rest, isAtStart := false })

/-! ### Sets of characters -/

/-- What stands between brackets at one place. -/
inductive Element where
  | glyph (g : Glyph)
  /-- A hyphen that is not quoted by brackets of its own. -/
  | hyphen
  | named (name : CharClass)
  /-- All that counts as one character. -/
  | equivalent (g : Glyph)
deriving DecidableEq, Inhabited

/-- A name between a mark and its closing bracket, with what follows. -/
def symbolName? (mark : Char) : List Glyph → Option (List Glyph × List Glyph)
  | [] => none
  | g :: rest =>
    if g = .char mark ∧ rest.head? = some (.char ']') then some ([], rest.drop 1)
    else (symbolName? mark rest).map fun (name, rest) => (g :: name, rest)

/-- The next element between brackets and what follows it. -/
def element (gs : List Glyph) : Except Fault (Element × List Glyph) := do
  match gs with
  | [] => throw .unmatchedBracket
  | .char '[' :: .char mark :: rest =>
    if ¬ [':', '.', '='].contains mark then return (.glyph (.char '['), .char mark :: rest)
    let some (name, rest) := symbolName? mark rest | throw .unmatchedBracket
    if mark = ':' then
      match CharClass.names.lookup (Raw.toText (Raw.ofGlyphs name)) with
      | some c => return (.named c, rest)
      | none => throw .badClass
    else match name with
      | [g] => return (if mark = '.' then .glyph g else .equivalent g, rest)
      | _ => throw .badCollation
  | .char '-' :: rest => return (.hyphen, rest)
  | g :: rest => return (.glyph g, rest)

/-- The character of an element at an end of a range. -/
def rangeEnd : Element → Except Fault Char
  | .hyphen => .ok '-'
  | .glyph (.char c) => if c.toNat < 0x80 then .ok c else .error .badCollation
  | .glyph (.stray _) => .error .badCollation
  | _ => .error .badRange

/-- The element as a member of a set. -/
def Element.member : Element → Member
  | .glyph g | .equivalent g => .glyph g
  | .hyphen => .glyph (.char '-')
  | .named name => .named name

/-- The members up to the closing bracket, and what follows it. The length is fuel enough. -/
def members : Nat → (isFirst : Bool) → List Glyph → Except Fault (List Member × List Glyph)
  | 0, _, _ => .error .unmatchedBracket
  | fuel + 1, isFirst, gs => do
    if gs.head? = some (.char ']') ∧ ¬ isFirst then return ([], gs.drop 1)
    let (first, rest) ← element gs
    if first = .hyphen ∧ ¬ isFirst ∧ rest.head? ≠ some (.char ']') then throw .badRange
    let mayStart : Bool := match first with
      | .glyph _ | .hyphen => true
      | _ => false
    match rest with
    | .char '-' :: next :: more =>
      if mayStart ∧ next ≠ .char ']' then
        let (last, rest) ← element (next :: more)
        let low ← rangeEnd first
        let high ← rangeEnd last
        if high < low then throw .badRange
        let (others, rest) ← members fuel false rest
        return (.range low high :: others, rest)
      else if ¬ mayStart ∧ next ≠ .char ']' then throw .badRange
      else
        let (others, rest) ← members fuel false rest
        return (first.member :: others, rest)
    | rest =>
      let (others, rest) ← members fuel false rest
      return (first.member :: others, rest)

/-- Whether members look like the name of a class without its own brackets. -/
def looksLikeClass (members : List Member) : Bool :=
  let colon : Member := .glyph (.char ':')
  let isPlain (m : Member) : Bool := match m with
    | .glyph _ => true
    | _ => false
  members.all isPlain && members.head? == some colon && members.getLast? == some colon &&
    members.any (· != colon)

/-- The set after an opening bracket. -/
def set : Reading CharSet := do
  let s ← get
  let (isNegated, gs) := match s.rest with
    | .char '^' :: rest => (true, rest)
    | rest => (false, rest)
  if gs.isEmpty then throw .invalid
  let (members, rest) ← members (gs.length + 1) true gs
  if looksLikeClass members then throw .confusingClass
  StateT.set { s with rest }
  return { members, isNegated }

/-! ### Intervals -/

/-- The greatest number of repetitions. -/
def greatestCount : Nat := 0x7fff

/-- A bound of an interval: none where there are no digits. Gives the token that ends it. The
length of the expression is fuel enough. -/
def bound : Nat → Option Nat → (isBad : Bool) → Reading (Except Unit (Option Nat) × Token)
  | 0, _, _ => return (.error (), .ending)
  | fuel + 1, value, isBad => do
    let t ← take false
    let done := if isBad then .error () else .ok value
    match t with
    | .ending | .trailingBackslash => return (.error (), .ending)
    | .closeInterval => return (done, t)
    | .one (.glyph (.char c)) =>
      if c = ',' then return (done, t)
      else if c.isDigit then
        let n := value.getD 0 * 10 + (c.toNat - '0'.toNat)
        bound fuel (some (min n (greatestCount + 1))) isBad
      else bound fuel value true
    | _ => bound fuel value true

/-- The bounds of an interval after its opening brace. -/
def interval : Reading (Nat × Option Nat) := do
  let fuel := (← get).rest.length + 1
  let comma : Token := .one (.glyph (.char ','))
  let (least, t) ← bound fuel none false
  let (most, t, isRange) ←
    if t = comma then do
      let (most, t) ← bound fuel none false
      pure (most, t, true)
    else pure (least, t, false)
  match least, most with
  | .ok least, .ok most =>
    if least.isNone ∧ ¬ isRange then throw .badInterval
    let low := least.getD 0
    if t ≠ .closeInterval ∨ most.any (· < low) then throw .badInterval
    if greatestCount < most.getD low then throw .tooBig
    return (low, if isRange then most else some low)
  | _, _ => if t = .ending then throw .unmatchedBrace else throw .badInterval

/-! ### Expressions -/

/-- The bounds of a repetition. -/
def repetition? (t : Token) : Reading (Option (Nat × Option Nat)) := do
  match t with
  | .star =>
    let _ ← take false
    return some (0, none)
  | .plus =>
    let _ ← take false
    return some (1, none)
  | .question =>
    let _ ← take false
    return some (0, some 1)
  | .openInterval =>
    let _ ← take false
    return some (← interval)
  | _ => return none

/-- An expression with the repetitions after it. -/
def repetitions : Nat → Regex → Reading Regex
  | 0, e => return e
  | fuel + 1, e => do
    match ← repetition? (← peek false) with
    | none => return e
    | some (least, most) =>
      let t ← peek false
      if ¬ (← get).isExtended ∧ (t = .star ∨ t = .openInterval) then throw .badRepetition
      repetitions fuel (.repeated e least most)

mutual

/-- Alternatives; down to a closing parenthesis if they are in a group. None of them refers to
a group in another one. -/
def alternatives : Nat → (inGroup : Bool) → Reading Regex
  | 0, _ => throw .invalid
  | fuel + 1, inGroup => do
    let before := (← get).closed
    let first ← branch fuel inGroup true
    match ← peek false with
    | .bar =>
      let _ ← take false
      let inFirst := (← get).closed
      modify fun s => { s with closed := before }
      let others ← alternatives fuel inGroup
      modify fun s => { s with closed := s.closed ++ inFirst }
      return .choice first others
    | _ => return first

/-- Expressions that follow one another. -/
def branch : Nat → (inGroup isFirst : Bool) → Reading Regex
  | 0, _, _ => throw .invalid
  | fuel + 1, inGroup, isFirst => do
    let t ← peek isFirst
    match t, inGroup with
    | .ending, _ | .bar, _ | .closing, true => return .empty
    | t, _ =>
      let e ← single fuel isFirst t
      let rest ← branch fuel inGroup false
      return if rest = .empty then e else .sequence e rest

/-- One expression, of which the first token is known. -/
def single : Nat → (isFirst : Bool) → Token → Reading Regex
  | 0, _, _ => throw .invalid
  | fuel + 1, isFirst, t => do
    let before ← get
    let _ ← take isFirst
    let literal : Reading Regex := do
      let g := match before.rest with
        | .char '\\' :: g :: _ => g
        | g :: _ => g
        | [] => .char ' '
      repetitions fuel (.one (.glyph g))
    match t with
    | .anchor a => return .assertion a
    | .one c => repetitions fuel (.one c)
    | .bracket => repetitions fuel (.one (.set (← set)))
    | .opening =>
      let number := before.groups + 1
      modify fun s => { s with groups := number }
      let e ← alternatives fuel true
      match ← take false with
      | .closing =>
        modify fun s => { s with closed := number :: s.closed }
        repetitions fuel (.group number e)
      | _ => throw .unmatchedOpening
    | .reference number =>
      if before.closed.contains number then repetitions fuel (.reference number)
      else throw .badReference
    | .openInterval => throw .badRepetition
    | .star | .plus | .question =>
      if before.isExtended then throw .badRepetition else literal
    | .closing => throw .unmatchedClosing
    | .trailingBackslash => throw .trailingBackslash
    | .closeInterval | .bar | .ending => literal

end

/-- The expression that some glyphs are, and how many groups it has. -/
def read (isExtended : Bool) (gs : List Glyph) : Except Fault (Regex × Nat) := do
  let (e, s) ← (alternatives (4 * (gs.length + 2)) false).run { isExtended, rest := gs }
  return (e, s.groups)

end LintHost.Shell.Regex
