import LintHost.Text.Utf8

/-!
# Texts of bytes

The shell and its tools work on bytes, which need not be UTF-8. In this folder a text is a
`Raw`: a `String` each of whose characters stands for the byte with its number, so all are
below 256. `Raw.ofText` and `Raw.toText` lead from text to its bytes and back, and bytes that
are not UTF-8 are replaced on the way back.

A tool that counts characters and not bytes works on glyphs, `Raw.glyphs`.
-/

namespace LintHost.Shell

/-- A text of bytes: each character stands for the byte with its number. -/
abbrev Raw := String

namespace Raw

/-- The text of some bytes. -/
def ofBytes (bytes : List UInt8) : Raw :=
  String.ofList (bytes.map fun b => Char.ofNat b.toNat)

/-- The bytes of a text. -/
def toBytes (raw : Raw) : List UInt8 :=
  raw.toList.map fun c => UInt8.ofNat c.toNat

/-- The bytes of the characters of a text. -/
def ofText (text : String) : Raw :=
  ofBytes (Text.encode8 text.toList)

/-- The characters of the bytes. -/
def toText (raw : Raw) : String :=
  String.ofList (Text.decode8Lossy (toBytes raw))

/-! ### Glyphs -/

/-- A character, or a byte that is no part of one. -/
inductive Glyph where
  | char (value : Char)
  | stray (byte : Char)
deriving DecidableEq, Inhabited

/-- The bytes of a glyph. -/
def Glyph.raw : Glyph → List Char
  | .char c => (String.utf8EncodeChar c).map fun b => Char.ofNat b.toNat
  | .stray byte => [byte]

/-- The character of a glyph that is one. -/
def Glyph.char? : Glyph → Option Char
  | .char c => some c
  | .stray _ => none

/-- The character at the start of some bytes and how many bytes it has. -/
def firstChar? (cs : List Char) : Option (Char × Nat) :=
  match cs with
  | [] => none
  | c :: rest =>
    if c.toNat < 0x80 then some (c, 1)
    else do
      let lead ← Text.lead? c.toNat
      let bytes := (c :: rest.take lead.following).map fun b => UInt8.ofNat b.toNat
      match ← Text.decode8? bytes with
      | [first] => return (first, lead.following + 1)
      | _ => none

/-- The glyphs of some bytes, of which so many are still part of the last glyph. -/
def glyphsFrom : Nat → List Char → List Glyph
  | _, [] => []
  | skipped + 1, _ :: rest => glyphsFrom skipped rest
  | 0, c :: rest =>
    match firstChar? (c :: rest) with
    | some (first, length) => .char first :: glyphsFrom (length - 1) rest
    | none => .stray c :: glyphsFrom 0 rest

/-- The glyphs of a text of bytes. -/
def glyphs (raw : Raw) : List Glyph :=
  glyphsFrom 0 raw.toList

/-- The bytes of some glyphs. -/
def ofGlyphs (gs : List Glyph) : Raw :=
  String.ofList (gs.flatMap Glyph.raw)

end Raw

end LintHost.Shell
