/-!
# Punycode

A label of a host name that holds characters beyond ASCII is written with ASCII alone, as RFC
3492 defines: first its ASCII characters, then, after a hyphen, one number for each of the
others, in the order of their code points. Such a number is the distance from the last
insertion, counted over all pairs of a code point and a place in the label.

Numbers have digits of base 36, the least significant one first. A digit below a threshold
ends the number; the threshold depends on the place of the digit and on a bias that follows the
size of the distances seen so far. `Punycode.decode?` is one pass over the digits.
-/

namespace LintHost.Host.Punycode

/-! ### Digits -/

/-- The letter or digit that stands for a number below 36. -/
def digitChar (n : Nat) : Char :=
  Char.ofNat (if n < 26 then 'a'.toNat + n else '0'.toNat + (n - 26))

/-- The number that a letter or digit stands for. -/
def digitValue? (c : Char) : Option Nat :=
  if 'a' ≤ c ∧ c ≤ 'z' then some (c.toNat - 'a'.toNat)
  else if 'A' ≤ c ∧ c ≤ 'Z' then some (c.toNat - 'A'.toNat)
  else if '0' ≤ c ∧ c ≤ '9' then some (c.toNat - '0'.toNat + 26)
  else none

/-- The threshold of a digit: its place less the bias, but at least 1 and at most 26. -/
def threshold (place bias : Nat) : Nat :=
  min (max (place - bias) 1) 26

theorem one_le_threshold (place bias : Nat) : 1 ≤ threshold place bias := by
  simp only [threshold]
  omega

/-! ### The bias -/

/-- Divides a distance by 35 until it is small, and counts 36 for each time. -/
def shrink (distance count : Nat) : Nat × Nat :=
  if 455 < distance then shrink (distance / 35) (count + 36) else (distance, count)
termination_by distance
decreasing_by omega

/-- The bias after a distance to the insertion that makes the label `length` long. -/
def adapt (distance length : Nat) (isFirst : Bool) : Nat :=
  let distance := if isFirst then distance / 700 else distance / 2
  let (rest, count) := shrink (distance + distance / length) 0
  count + 36 * rest / (rest + 38)

/-- The place of the first digit of a number. -/
def firstPlace : Nat := 36

/-- The bias before the first insertion. -/
def firstBias : Nat := 72

/-! ### Writing -/

/-- The digits of a number. -/
def digitsOf (bias place n : Nat) : List Char :=
  let t := threshold place bias
  if n < t then [digitChar n]
  else digitChar (t + (n - t) % (36 - t)) :: digitsOf bias (place + 36) ((n - t) / (36 - t))
termination_by n
decreasing_by
  have h := one_le_threshold place bias
  have : (n - threshold place bias) / (36 - threshold place bias) ≤ n - threshold place bias :=
    Nat.div_le_self _ _
  omega

/-- What has been written: the digits, the distance from the last insertion, the bias, and how
many characters of the label are there. -/
structure Writer where
  digits : List Char
  distance : Nat
  bias : Nat
  length : Nat

/-- Passes one character of the label while the insertions of `code` are written; `basic` is the
number of ASCII characters. -/
def Writer.pass (basic code : Nat) (w : Writer) (c : Char) : Writer :=
  if c.toNat < code then { w with distance := w.distance + 1 }
  else if c.toNat = code then
    { digits := w.digits ++ digitsOf w.bias firstPlace w.distance
      distance := 0
      bias := adapt w.distance (w.length + 1) (w.length == basic)
      length := w.length + 1 }
  else w

/-- Writes the insertions of the code points in turn; `next` is the least one still possible. -/
def Writer.run (label : List Char) (basic : Nat) : List Nat → Nat → Writer → Writer
  | [], _, w => w
  | code :: codes, next, w =>
    let w := { w with distance := w.distance + (code - next) * (w.length + 1) }
    let w := label.foldl (Writer.pass basic code) w
    Writer.run label basic codes (code + 1) { w with distance := w.distance + 1 }

/-- A number put into numbers that ascend without repetition. -/
def insertCode (code : Nat) : List Nat → List Nat
  | [] => [code]
  | other :: codes =>
    if code < other then code :: other :: codes
    else if code = other then other :: codes
    else other :: insertCode code codes

/-- The code points of a label beyond ASCII, ascending. -/
def codesOf (label : List Char) : List Nat :=
  ((label.filter fun c => 0x80 ≤ c.toNat).map Char.toNat).foldr insertCode []

/-- A label written with ASCII characters. -/
def encode (label : List Char) : List Char :=
  let basic := label.filter fun c => c.toNat < 0x80
  let written := Writer.run label basic.length (codesOf label) 0x80 ⟨[], 0, firstBias, basic.length⟩
  (if basic = [] then [] else basic ++ ['-']) ++ written.digits

/-! ### Reading -/

/-- What has been read: the label so far, the code point and the place of the next insertion,
the bias, and of the number that is being read the start, the place and the weight of its next
digit. -/
structure Reader where
  label : List Char
  code : Nat
  index : Nat
  bias : Nat
  start : Nat
  place : Nat
  weight : Nat

/-- The state before the first number. -/
def Reader.initial (basic : List Char) : Reader :=
  ⟨basic, 0x80, 0, firstBias, 0, firstPlace, 1⟩

/-- Puts a character into the label once its number is complete. -/
def Reader.insert? (r : Reader) : Option Reader :=
  let length := r.label.length + 1
  let code := r.code + r.index / length
  let index := r.index % length
  if code < 0xd800 ∨ (0xe000 ≤ code ∧ code < 0x110000) then
    some
      { label := r.label.take index ++ Char.ofNat code :: r.label.drop index
        code, index := index + 1
        bias := adapt (r.index - r.start) length (r.start == 0)
        start := index + 1, place := firstPlace, weight := 1 }
  else none

/-- Reads one digit. -/
def Reader.read? (r : Reader) (c : Char) : Option Reader := do
  let digit ← digitValue? c
  let t := threshold r.place r.bias
  let r := { r with index := r.index + digit * r.weight }
  if digit < t then r.insert?
  else some { r with place := r.place + 36, weight := r.weight * (36 - t) }

/-- The ASCII characters of an encoded label, which end before the last hyphen unless that is its
first character, and the digits. -/
def splitBasic (cs : List Char) : List Char × List Char :=
  let digits := (cs.reverse.takeWhile (· != '-')).reverse
  let basic := cs.take (cs.length - digits.length - 1)
  if basic = [] then ([], cs) else (basic, digits)

/-- The label that is written with the given ASCII characters. -/
def decode? (cs : List Char) : Option (List Char) := do
  let (basic, digits) := splitBasic cs
  let r ← digits.foldlM Reader.read? (Reader.initial basic)
  if r.place = firstPlace then some r.label else none

end LintHost.Host.Punycode
