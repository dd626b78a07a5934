import LintHost.Text.Split

/-!
# Numeric addresses

A host may be a number instead of a name. An address of version 4 is read in any of the forms
that programs have long accepted: one to four parts, of which the last fills all bytes that are
left, each in decimal, octal or hexadecimal. An address of version 6 has eight pieces of 16
bits; one gap of zeros may be left out, and the last two pieces may be an address of version 4.

Both have one written form: four decimal bytes, and hexadecimal pieces in which the longest gap
of at least two zeros, the first of those of equal length, is left out.
-/

namespace LintHost.Host

/-! ### Numbers -/

/-- The value of a hexadecimal digit in either case. -/
def hexDigit? (c : Char) : Option Nat :=
  if '0' ≤ c ∧ c ≤ '9' then some (c.toNat - '0'.toNat)
  else if 'a' ≤ c.toLower ∧ c.toLower ≤ 'f' then some (c.toLower.toNat - 'a'.toNat + 10)
  else none

/-- The number that digits of a base spell. -/
def numberIn? (base : Nat) (digits : List Char) : Option Nat :=
  digits.foldlM (fun n c => do
    let d ← hexDigit? c
    if d < base then some (n * base + d) else none) 0

namespace V4

/-- The number that one part of an address spells: hexadecimal after `0x`, octal after a zero.
The empty digits of such a base are a zero. -/
def readPart? : List Char → Option Nat
  | [] => none
  | '0' :: 'x' :: digits => numberIn? 16 digits
  | '0' :: 'X' :: digits => numberIn? 16 digits
  | '0' :: digits => numberIn? 8 digits
  | digits => numberIn? 10 digits

/-- The parts of a text between points; one point at its end counts for nothing. -/
def partsOf (cs : List Char) : List (List Char) :=
  match (Text.splitOn '.' cs).reverse with
  | [] :: parts@(_ :: _) => parts.reverse
  | _ => Text.splitOn '.' cs

/-- Whether a host is meant as an address: its last part is a number. -/
def isMeant (cs : List Char) : Bool :=
  match (partsOf cs).getLast? with
  | none => false
  | some part => (part != [] && part.all Char.isDigit) || (readPart? part).isSome

/-- The address whose bytes before the last part are given. -/
def assemble (bytes : List Nat) (last : Nat) : Nat :=
  (bytes.zipIdx.map fun (byte, i) => byte * Nat.pow 256 (3 - i)).foldr (· + ·) last

/-- The address that a text spells. -/
def read? (cs : List Char) : Option Nat := do
  let numbers ← (partsOf cs).mapM readPart?
  let last ← numbers.getLast?
  let bytes := numbers.dropLast
  if bytes.length ≤ 3 ∧ bytes.all (· < 256) ∧ last < Nat.pow 256 (4 - bytes.length) then
    some (assemble bytes last)
  else none

/-- The written form of an address. -/
def write (address : Nat) : List Char :=
  Text.join '.' ([3, 2, 1, 0].map fun i => Nat.toDigits 10 (address / Nat.pow 256 i % 256))

end V4

namespace V6

/-- The number of pieces. -/
def size : Nat := 8

/-- One piece: up to four hexadecimal digits. -/
def readPiece? (cs : List Char) : Option Nat :=
  if cs = [] ∨ 4 < cs.length then none else numberIn? 16 cs

/-- One byte of an address of version 4 inside one of version 6, without needless zeros. -/
def readByte? (cs : List Char) : Option Nat := do
  if cs = [] ∨ (cs.head? = some '0' ∧ 1 < cs.length) then none
  let n ← numberIn? 10 cs
  if n < 256 then some n else none

/-- The two pieces that four bytes make. -/
def readBytes? (cs : List Char) : Option (List Nat) := do
  match ← (Text.splitOn '.' cs).mapM readByte? with
  | [a, b, c, d] => some [a * 256 + b, c * 256 + d]
  | _ => none

/-- Pieces with colons between them; the last one may be four bytes if `mayEndInBytes`. -/
def readPieces? (mayEndInBytes : Bool) : List (List Char) → Option (List Nat)
  | [] => some []
  | [piece] => if mayEndInBytes && piece.contains '.' then readBytes? piece else
    (readPiece? piece).map fun n => [n]
  | piece :: pieces => do
    some ((← readPiece? piece) :: (← readPieces? mayEndInBytes pieces))

/-- The text before the first two colons that follow each other, and the text after them. -/
def splitGap? : List Char → Option (List Char × List Char)
  | ':' :: ':' :: cs => some ([], cs)
  | c :: cs => (splitGap? cs).map fun (before, after) => (c :: before, after)
  | [] => none

/-- The pieces of a text that may be empty. -/
def readSide? (mayEndInBytes : Bool) (cs : List Char) : Option (List Nat) :=
  if cs = [] then some [] else readPieces? mayEndInBytes (Text.splitOn ':' cs)

/-- The pieces of the address that a text spells. -/
def read? (cs : List Char) : Option (List Nat) := do
  match splitGap? cs with
  | none =>
    let pieces ← readSide? true cs
    if pieces.length = size then some pieces else none
  | some (before, after) =>
    let before ← readSide? false before
    let after ← readSide? true after
    let given := before.length + after.length
    if given < size then some (before ++ List.replicate (size - given) 0 ++ after) else none

/-- The number of zeros at the start. -/
def zeros (pieces : List Nat) : Nat :=
  (pieces.takeWhile (· == 0)).length

/-- The place and the length of the longest gap of zeros, the first of those. -/
def longestGap (pieces : List Nat) : Nat × Nat :=
  (List.range pieces.length).foldl (fun best i =>
    if best.2 < zeros (pieces.drop i) then (i, zeros (pieces.drop i)) else best) (0, 0)

/-- Pieces with colons between them. -/
def writePieces (pieces : List Nat) : List Char :=
  Text.join ':' (pieces.map (Nat.toDigits 16))

/-- The written form of an address. -/
def write (pieces : List Nat) : List Char :=
  let (start, length) := longestGap pieces
  if length < 2 then writePieces pieces
  else writePieces (pieces.take start) ++ "::".toList ++ writePieces (pieces.drop (start + length))

end V6

end LintHost.Host
