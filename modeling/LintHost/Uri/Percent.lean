import LintHost.Host.Address

/-!
# Percent encoding

A character that may not stand in a part of a URI is written as its UTF-8 bytes, each as a
percent sign and two hexadecimal digits. Controls and characters beyond ASCII are encoded
everywhere; what else is encoded depends on the part.
-/

namespace LintHost.Uri

/-! ### Encoding -/

/-- A hexadecimal digit in upper case. -/
def upperHex (n : Nat) : Char :=
  (Nat.digitChar n).toUpper

/-- A byte as a percent sign and two digits. -/
def encodeByte (b : UInt8) : List Char :=
  ['%', upperHex (b.toNat / 16), upperHex (b.toNat % 16)]

/-- A character that no part of a URI holds as it is. -/
def isControl (c : Char) : Bool :=
  c.toNat < 0x20 || 0x7f ≤ c.toNat

/-- A text with the controls, the characters beyond ASCII and those of a set encoded. -/
def encode (reserved : List Char) (cs : List Char) : List Char :=
  cs.flatMap fun c =>
    if isControl c || reserved.contains c then (String.utf8EncodeChar c).flatMap encodeByte
    else [c]

/-- What is encoded in a fragment. -/
def fragmentSet : List Char := [' ', '"', '<', '>', '\x60']

/-- What is encoded in a path. -/
def pathSet : List Char := fragmentSet ++ ['#', '?', '\x7b', '\x7d']

/-- What is encoded in the name and the password of a user. -/
def userSet : List Char := pathSet ++ ['/', ':', ';', '=', '@', '[', '\\', ']', '^', '|']

/-- What is encoded in a query; a special scheme adds the single quote. -/
def querySet (special : Bool) : List Char :=
  [' ', '"', '#', '<', '>'] ++ if special then ['\''] else []

/-! ### Decoding -/

/-- The bytes of a text in which encoded bytes are decoded; a percent sign that encodes
nothing stands for itself. -/
def decode : List Char → List UInt8
  | '%' :: a :: b :: rest =>
    match Host.hexDigit? a, Host.hexDigit? b with
    | some high, some low => UInt8.ofNat (high * 16 + low) :: decode rest
    | _, _ => 0x25 :: decode (a :: b :: rest)
  | c :: rest => String.utf8EncodeChar c ++ decode rest
  | [] => []

end LintHost.Uri
