import LintHost.Shell.Raw
import LintHost.Text.Letter
import LintHost.Text.Runs
import LintHost.Text.Table.Unprintable
import Std.Data.HashSet

/-!
# Regular expressions

A regular expression over glyphs, and its search in a text. Of the matches that start at the
first place where there is one the longest counts, and of several equally long ones the first
that is found: alternatives are tried in order, and repetitions as often as possible.

An expression is turned into a list of steps, `Regex.steps`, whose jumps are relative. A search
keeps the ways that are still to be tried; a step is not taken again at a place where it was
taken before, since nothing new could come of it, unless the expression refers back to what a
group has matched and the groups have matched something else. Text between the two ends of a
group is kept in two slots.
-/

namespace LintHost.Shell

/-! ### Sets of characters -/

/-- The classes of characters that have names. -/
inductive CharClass where
  | alnum | alpha | blank | cntrl | digit | graph | lower | print | punct | space | upper | xdigit
deriving DecidableEq, Inhabited

namespace CharClass

/-- The classes by their names. -/
def names : List (String × CharClass) :=
  [("alnum", .alnum), ("alpha", .alpha), ("blank", .blank), ("cntrl", .cntrl),
    ("digit", .digit), ("graph", .graph), ("lower", .lower), ("print", .print),
    ("punct", .punct), ("space", .space), ("upper", .upper), ("xdigit", .xdigit)]

/-- A blank of any kind. -/
def isSpace (c : Char) : Bool :=
  c == ' ' || ('\t' ≤ c && c ≤ '\x0d') ||
    Text.inRuns [(0x1680, 0x1680), (0x2000, 0x2006), (0x2008, 0x200a), (0x2028, 0x2029),
      (0x205f, 0x205f), (0x3000, 0x3000)] c.toNat

/-- A character that can be shown. -/
def isPrint (c : Char) : Bool :=
  !Text.inRuns Text.Table.unprintable c.toNat

/-- Whether a character belongs to a class. -/
def contains (c : Char) : CharClass → Bool
  | alnum => Text.isLetter c || c.isDigit
  | alpha => Text.isLetter c
  | blank => c == '\t' || (isSpace c && c != '\u2028' && c != '\u2029' && !(c ≤ '\x0d'))
  | cntrl => c < ' ' || ('\x7f' ≤ c && c ≤ '\u009f') || c == '\u2028' || c == '\u2029'
  | digit => c.isDigit
  | graph => isPrint c && !isSpace c
  | lower => Text.isLetter c && (Text.upperChar c != c || Text.isCased c && Text.lowerOne c == c)
  | print => isPrint c
  | punct => isPrint c && !isSpace c && !Text.isLetter c && !c.isDigit
  | space => isSpace c
  | upper => Text.isLetter c && Text.lowerOne c != c
  | xdigit => c.isDigit || ('a' ≤ c && c ≤ 'f') || ('A' ≤ c && c ≤ 'F')

end CharClass

/-- What may stand between brackets. -/
inductive Member where
  | glyph (g : Raw.Glyph)
  | range (low high : Char)
  | named (name : CharClass)
deriving DecidableEq, Inhabited

/-- A set of characters between brackets. -/
structure CharSet where
  members : List Member
  isNegated : Bool
deriving DecidableEq, Inhabited

/-- A character that words consist of. -/
def isWordChar (c : Char) : Bool :=
  CharClass.alnum.contains c || c == '_'

/-! ### Expressions -/

/-- What has to be true at a place. -/
inductive Assertion where
  | lineStart | lineEnd | textStart | textEnd
  | wordEdge | noWordEdge | wordStart | wordEnd
deriving DecidableEq, Inhabited

/-- What takes one character. -/
inductive OneChar where
  | any
  | glyph (g : Raw.Glyph)
  | set (s : CharSet)
  | word (isNegated : Bool)
  | blank (isNegated : Bool)
deriving DecidableEq, Inhabited

/-- A regular expression. -/
inductive Regex where
  | empty
  | one (c : OneChar)
  | sequence (first second : Regex)
  | choice (first second : Regex)
  /-- At least so often, and at most so often if there is a limit. -/
  | repeated (e : Regex) (least : Nat) (most : Option Nat)
  | group (number : Nat) (e : Regex)
  /-- What a group has matched. -/
  | reference (number : Nat)
  | assertion (a : Assertion)
deriving DecidableEq, Inhabited

/-! ### Steps -/

/-- A step of a search; jumps lead over so many steps. -/
inductive Step where
  | take (c : OneChar)
  /-- Goes on with the next step, and else after a jump. -/
  | split (jump : Nat)
  | forward (jump : Nat)
  | back (jump : Nat)
  /-- Keeps the place in a slot. -/
  | keep (slot : Nat)
  | reference (number : Nat)
  | check (a : Assertion)
deriving DecidableEq, Inhabited

namespace Regex

/-- The steps of an optional part, as often as is said. -/
def optionalSteps (steps : List Step) : Nat → List Step
  | 0 => []
  | count + 1 =>
    let rest := steps ++ optionalSteps steps count
    .split (rest.length + 1) :: rest

/-- The steps of an expression. -/
def steps : Regex → List Step
  | empty => []
  | one c => [.take c]
  | sequence first second => steps first ++ steps second
  | choice first second =>
    let left := steps first
    let right := steps second
    .split (left.length + 2) :: left ++ .forward (right.length + 1) :: right
  | repeated e least most =>
    let body := steps e
    let forced := (List.replicate least body).flatten
    match most with
    | some most => forced ++ optionalSteps body (most - least)
    | none => forced ++ .split (body.length + 2) :: body ++ [.back (body.length + 1)]
  | group number e => .keep (2 * number) :: steps e ++ [.keep (2 * number + 1)]
  | reference number => [.reference number]
  | assertion a => [.check a]

/-- Whether an expression refers back to a group. -/
def refersBack : Regex → Bool
  | sequence first second | choice first second => refersBack first || refersBack second
  | repeated e _ _ | group _ e => refersBack e
  | reference _ => true
  | _ => false

end Regex

/-! ### Searches -/

/-- An expression that is ready for searches. -/
structure Searcher where
  steps : Array Step
  /-- How many groups there are. -/
  groups : Nat
  /-- Whether it matters for the steps what groups have matched. -/
  refersBack : Bool
  ignoresCase : Bool
  /-- Whether the ends of lines count as ends of the text. -/
  linewise : Bool
deriving Inhabited

/-- A match: the slots in which the ends of the groups are kept. -/
abbrev Slots := Array (Option Nat)

namespace Searcher

/-- A searcher for an expression. -/
def ofRegex (e : Regex) (groups : Nat) (ignoresCase linewise : Bool) : Searcher where
  steps := e.steps.toArray
  groups := groups
  refersBack := e.refersBack
  ignoresCase := ignoresCase
  linewise := linewise

/-- A glyph without its case, where that does not matter. -/
def fold (s : Searcher) (g : Raw.Glyph) : Raw.Glyph :=
  match g with
  | .char c => if s.ignoresCase then .char (Text.upperChar c) else g
  | .stray _ => g

/-- Whether a member of a set stands for a glyph. -/
def memberAccepts (s : Searcher) (g : Raw.Glyph) : Member → Bool
  | .glyph other => s.fold other == s.fold g
  | .range low high =>
    match s.fold (.char low), s.fold (.char high), s.fold g with
    | .char low, .char high, .char c => low ≤ c && c ≤ high
    | _, _, _ => false
  | .named name =>
    match g with
    | .char c =>
      name.contains c || s.ignoresCase && (name == .upper || name == .lower) &&
        CharClass.alpha.contains c
    | .stray _ => false

/-- Whether a glyph is taken. A byte that is no part of a character is only taken by itself. -/
def accepts (s : Searcher) (g : Raw.Glyph) : OneChar → Bool
  | .any => g.char?.isSome
  | .glyph other => s.fold other == s.fold g
  | .set set =>
    if set.isNegated then g.char?.isSome && !set.members.any (s.memberAccepts g)
    else set.members.any (s.memberAccepts g)
  | .word isNegated => g.char?.any fun c => isWordChar c != isNegated
  | .blank isNegated => g.char?.any fun c => CharClass.space.contains c != isNegated

/-- Whether a word covers a place in a text: the glyph there belongs to one. -/
def inWord (text : Array Raw.Glyph) (place : Nat) : Bool :=
  match text[place]? with
  | some (.char c) => isWordChar c
  | _ => false

/-- Whether an assertion is true at a place. -/
def holds (s : Searcher) (text : Array Raw.Glyph) (place : Nat) (a : Assertion) : Bool :=
  let before : Bool := match place with
    | 0 => false
    | n + 1 => inWord text n
  let after := inWord text place
  let isNewline (place : Nat) : Bool := text[place]? == some (.char '\n')
  match a with
  | .lineStart => place == 0 || s.linewise && isNewline (place - 1)
  | .lineEnd => place == text.size || s.linewise && isNewline place
  | .textStart => place == 0
  | .textEnd => place == text.size
  | .wordEdge => before != after
  | .noWordEdge => before == after
  | .wordStart => !before && after
  | .wordEnd => before && !after

/-- A way of a search: the next step, the place in the text, and the slots. -/
structure Way where
  step : Nat
  place : Nat
  slots : Slots
deriving DecidableEq, Hashable, Inhabited

/-- The place after what a group has matched, if it follows at a place. -/
def afterReference? (s : Searcher) (text : Array Raw.Glyph) (way : Way) (number : Nat) :
    Option Nat := do
  let start ← (way.slots[2 * number]?).join
  let stop ← (way.slots[2 * number + 1]?).join
  let length := stop - start
  let same := (List.range length).all fun i =>
    match text[start + i]?, text[way.place + i]? with
    | some a, some b => s.fold a == s.fold b
    | _, _ => false
  if same then some (way.place + length) else none

/-- The ways on from one whose next step is given. -/
def advance (s : Searcher) (text : Array Raw.Glyph) (way : Way) : Step → List Way
  | .take c =>
    match text[way.place]? with
    | some g =>
      if s.accepts g c then [{ way with step := way.step + 1, place := way.place + 1 }] else []
    | none => []
  | .split jump => [{ way with step := way.step + 1 }, { way with step := way.step + jump }]
  | .forward jump => [{ way with step := way.step + jump }]
  | .back jump => [{ way with step := way.step - jump }]
  | .keep slot =>
    [{ way with step := way.step + 1, slots := way.slots.setIfInBounds slot (some way.place) }]
  | .reference number =>
    match s.afterReference? text way number with
    | some place => [{ way with step := way.step + 1, place }]
    | none => []
  | .check a => if s.holds text way.place a then [{ way with step := way.step + 1 }] else []

/-- What of a way decides about the ways on from it: the slots do only where groups are
referred to. -/
def essence (s : Searcher) (way : Way) : Way :=
  if s.refersBack then way else { way with slots := #[] }

/-- Tries ways in order, of which those are left out that have been tried already; gives the
longest match. -/
def tryAll (s : Searcher) (text : Array Raw.Glyph) :
    Nat → List Way → Std.HashSet Way → Option Way → Option Way
  | 0, _, _, best => best
  | _, [], _, best => best
  | fuel + 1, way :: ways, tried, best =>
    if tried.contains (s.essence way) then tryAll s text fuel ways tried best
    else
      let tried := tried.insert (s.essence way)
      match s.steps[way.step]? with
      | some step => tryAll s text fuel (s.advance text way step ++ ways) tried best
      | none =>
        if best.all (·.place < way.place) then
          if way.place = text.size then some way else tryAll s text fuel ways tried (some way)
        else tryAll s text fuel ways tried best

/-- How many steps a search may take that refers back. -/
def greatestEffort : Nat := 200000

/-- The longest match at a place; the first two slots hold its own ends. -/
def matchAt? (s : Searcher) (text : Array Raw.Glyph) (place : Nat) : Option Slots :=
  let keys := (s.steps.size + 1) * (text.size + 1)
  let fuel := if s.refersBack then greatestEffort else 2 * keys + 2
  let slots := Array.replicate (2 * s.groups + 2) none
  let way := s.tryAll text fuel [{ step := 0, place, slots }] ∅ none
  way.map fun way =>
    (way.slots.setIfInBounds 0 (some place)).setIfInBounds 1 (some way.place)

/-- The first match from a place on. -/
def find? (s : Searcher) (text : Array Raw.Glyph) (place : Nat) : Option Slots :=
  (List.range (text.size + 1 - place)).findSome? fun n => s.matchAt? text (place + n)

/-- Whether the empty text is found inside a character, where no assertion is true. -/
def fitsInside (s : Searcher) : Bool :=
  let steps := s.steps.map fun step =>
    match step with
    | .check _ => .take .any
    | step => step
  ({ s with steps }.matchAt? #[] 0).isSome

end Searcher

end LintHost.Shell
