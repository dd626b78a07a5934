import LintHost.Text.Utf8

/-!
# The MD5 digest

A digest names the cache directory of a project, so that two projects with one base name
get two directories. This is the algorithm of RFC 1321 over lists of bytes: the message is
padded to blocks of 64 bytes, and each block changes four words by 64 operations.
-/

namespace LintHost.Digest

/-! ### Constants -/

/-- The distance of the rotation in each of the 64 operations. -/
def rotations : List UInt32 :=
  let round (a b c d : UInt32) := (List.replicate 4 [a, b, c, d]).flatten
  round 7 12 17 22 ++ round 5 9 14 20 ++ round 4 11 16 23 ++ round 6 10 15 21

/-- The constant added in each of the 64 operations. -/
def sines : List UInt32 := [
  0xd76aa478, 0xe8c7b756, 0x242070db, 0xc1bdceee, 0xf57c0faf, 0x4787c62a, 0xa8304613,
  0xfd469501, 0x698098d8, 0x8b44f7af, 0xffff5bb1, 0x895cd7be, 0x6b901122, 0xfd987193,
  0xa679438e, 0x49b40821, 0xf61e2562, 0xc040b340, 0x265e5a51, 0xe9b6c7aa, 0xd62f105d,
  0x02441453, 0xd8a1e681, 0xe7d3fbc8, 0x21e1cde6, 0xc33707d6, 0xf4d50d87, 0x455a14ed,
  0xa9e3e905, 0xfcefa3f8, 0x676f02d9, 0x8d2a4c8a, 0xfffa3942, 0x8771f681, 0x6d9d6122,
  0xfde5380c, 0xa4beea44, 0x4bdecfa9, 0xf6bb4b60, 0xbebfbc70, 0x289b7ec6, 0xeaa127fa,
  0xd4ef3085, 0x04881d05, 0xd9d4d039, 0xe6db99e5, 0x1fa27cf8, 0xc4ac5665, 0xf4292244,
  0x432aff97, 0xab9423a7, 0xfc93a039, 0x655b59c3, 0x8f0ccc92, 0xffeff47d, 0x85845dd1,
  0x6fa87e4f, 0xfe2ce6e0, 0xa3014314, 0x4e0811a1, 0xf7537e82, 0xbd3af235, 0x2ad7d2bb,
  0xeb86d391]

/-! ### Blocks -/

/-- The four words of the digest. -/
structure Words where
  a : UInt32 := 0x67452301
  b : UInt32 := 0xefcdab89
  c : UInt32 := 0x98badcfe
  d : UInt32 := 0x10325476
deriving DecidableEq, Inhabited

/-- A word rotated to the left. -/
def rotate (x n : UInt32) : UInt32 :=
  (x <<< n) ||| (x >>> (32 - n))

/-- The mixing function of the `i`th operation, and the number of the message word that it
takes. -/
def mix (w : Words) (i : Nat) : UInt32 × Nat :=
  if i < 16 then ((w.b &&& w.c) ||| (~~~w.b &&& w.d), i)
  else if i < 32 then ((w.d &&& w.b) ||| (~~~w.d &&& w.c), (5 * i + 1) % 16)
  else if i < 48 then (w.b ^^^ w.c ^^^ w.d, (3 * i + 5) % 16)
  else (w.c ^^^ (w.b ||| ~~~w.d), 7 * i % 16)

/-- One operation on a block of message words. -/
def operation (block : List UInt32) (w : Words) (i : Nat) : Words :=
  let (f, g) := mix w i
  let sum := w.a + f + sines.getD i 0 + block.getD g 0
  { a := w.d, b := w.b + rotate sum (rotations.getD i 0), c := w.b, d := w.c }

/-- The digest after one more block. -/
def absorb (w : Words) (block : List UInt32) : Words :=
  let r := (List.range 64).foldl (operation block) w
  { a := w.a + r.a, b := w.b + r.b, c := w.c + r.c, d := w.d + r.d }

/-! ### Messages -/

/-- The bytes of a number, the least significant first. -/
def littleEndian (count n : Nat) : List UInt8 :=
  (List.range count).map fun i => UInt8.ofNat (n >>> (8 * i) % 256)

/-- The message with the bit that ends it, zeros up to eight bytes short of a whole block,
and its length in bits. -/
def padded (message : List UInt8) : List UInt8 :=
  message ++ [0x80] ++ List.replicate ((119 - message.length % 64) % 64) 0 ++
    littleEndian 8 (8 * message.length)

/-- The word of four bytes, the least significant first. -/
def word (bytes : List UInt8) : UInt32 :=
  bytes.foldr (fun b n => n <<< 8 ||| b.toUInt32) 0

/-- A list cut into `count` parts of `size` items. -/
def parts {α : Type} (size : Nat) : Nat → List α → List (List α)
  | 0, _ => []
  | count + 1, xs => xs.take size :: parts size count (xs.drop size)

/-- The sixteen bytes of the digest. -/
def md5 (message : List UInt8) : List UInt8 :=
  let bytes := padded message
  let w := (parts 64 (bytes.length / 64) bytes).foldl
    (fun w block => absorb w ((parts 4 16 block).map word)) {}
  [w.a, w.b, w.c, w.d].flatMap fun x => littleEndian 4 x.toNat

/-- Bytes as pairs of hexadecimal digits in lower case. -/
def hex (bytes : List UInt8) : List Char :=
  bytes.flatMap fun b => [Nat.digitChar (b.toNat / 16), Nat.digitChar (b.toNat % 16)]

/-- The digest of a text's UTF-8 bytes, in hexadecimal digits. -/
def ofText (text : List Char) : List Char :=
  hex (md5 (Text.encode8 text))

end LintHost.Digest
