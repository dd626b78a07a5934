/-!
# UTF-8 bytes

Files and the output of a checker are bytes. This file encodes text as UTF-8 and decodes
bytes in two ways from one table of well-formed sequences: strictly, where a single
ill-formed byte refuses the whole (`Text.decode8?`), and leniently, where each maximal
ill-formed part becomes one replacement character (`Text.decode8Lossy`).

A sequence is described by its lead byte: how many bytes follow and the bounds of the
first of them, which exclude overlong forms, surrogates and code points above the last
plane. All further bytes lie between `80` and `BF`.
-/

namespace LintHost.Text

/-! ### Encoding -/

/-- The UTF-8 bytes of a text. -/
def encode8 (cs : List Char) : List UInt8 :=
  cs.flatMap String.utf8EncodeChar

/-! ### Sequences by their lead byte -/

/-- What follows a lead byte: the number of bytes after it, the bounds of the first of
these, and the part of the code point that the lead byte holds. -/
structure Lead where
  following : Nat
  low : Nat
  high : Nat
  bits : Nat

/-- The lead bytes of sequences of two, three and four bytes. -/
def lead? (b : Nat) : Option Lead :=
  if b < 0xc2 then none
  else if b < 0xe0 then some ⟨1, 0x80, 0xbf, b - 0xc0⟩
  else if b = 0xe0 then some ⟨2, 0xa0, 0xbf, 0⟩
  else if b = 0xed then some ⟨2, 0x80, 0x9f, 0xd⟩
  else if b < 0xf0 then some ⟨2, 0x80, 0xbf, b - 0xe0⟩
  else if b = 0xf0 then some ⟨3, 0x90, 0xbf, 0⟩
  else if b < 0xf4 then some ⟨3, 0x80, 0xbf, b - 0xf0⟩
  else if b = 0xf4 then some ⟨3, 0x80, 0x8f, 4⟩
  else none

/-! ### Decoding -/

/-- The state of a decoder between two bytes: at the start of a sequence, or inside one
with `missing + 1` bytes to come, of which the next lies between `low` and `high`, and
with the bits of the code point read so far. -/
inductive Decoding where
  | between
  | inside (missing low high bits : Nat)

/-- One byte at the start of a sequence: the character that it completes or `none` for an
ill-formed byte, and the state after it. -/
def Decoding.begin (b : Nat) : Option (Option Char) × Decoding :=
  if b < 0x80 then (some (some (Char.ofNat b)), .between)
  else match lead? b with
    | some lead => (none, .inside (lead.following - 1) lead.low lead.high lead.bits)
    | none => (some none, .between)

/-- The characters that a byte completes, where `none` marks an ill-formed part, and the
state after it. A byte that cannot continue a sequence ends the sequence as ill-formed
and is read again as a first byte. -/
def Decoding.step : Decoding → Nat → List (Option Char) × Decoding
  | .between, b =>
    match Decoding.begin b with
    | (some c, next) => ([c], next)
    | (none, next) => ([], next)
  | .inside missing low high bits, b =>
    if low ≤ b ∧ b ≤ high then
      match missing with
      | 0 => ([some (Char.ofNat (bits * 64 + (b - 0x80)))], .between)
      | missing + 1 => ([], .inside missing 0x80 0xbf (bits * 64 + (b - 0x80)))
    else
      match Decoding.begin b with
      | (some c, next) => ([none, c], next)
      | (none, next) => ([none], next)

/-- The characters of the bytes, with `none` for each maximal ill-formed part. -/
def decodeFrom : Decoding → List UInt8 → List (Option Char)
  | .between, [] => []
  | .inside .., [] => [none]
  | state, b :: bs => (state.step b.toNat).1 ++ decodeFrom (state.step b.toNat).2 bs

/-- The text that the bytes encode; `none` if they are not UTF-8. -/
def decode8? (bytes : List UInt8) : Option (List Char) :=
  (decodeFrom .between bytes).mapM id

/-- The text that the bytes encode, with U+FFFD for each maximal ill-formed part. -/
def decode8Lossy (bytes : List UInt8) : List Char :=
  (decodeFrom .between bytes).map (·.getD '\ufffd')

end LintHost.Text
