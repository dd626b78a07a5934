import LintHost.Shell.Decimal
import LintHost.Shell.Raw

/-!
# Formats

`printf`, of which there are two: a command of the shell and a program. They differ in their
messages, in some escapes and directives, and in when they write: the command writes all its
messages before its output, the program keeps the order.

A format is used again as long as it uses up arguments. A directive takes the next argument,
and an empty text or zero if there is none.
-/

namespace LintHost.Shell

/-! ### Escapes -/

/-- Whose escapes are read. -/
inductive Dialect where
  /-- The format of the command of the shell. -/
  | shellFormat
  /-- The text that the command of the shell is given, and that of its `echo`. -/
  | shellText
  /-- The format of the program. -/
  | programFormat
  /-- The text that the program is given. -/
  | programText
  /-- The text of the program `echo`. -/
  | programEcho
deriving DecidableEq, Inhabited

namespace Dialect

/-- Whether a text can end the output. -/
def hasCut : Dialect → Bool
  | .shellFormat => false
  | _ => true

/-- Whether the escapes are those of a program. -/
def isProgram : Dialect → Bool
  | .shellFormat | .shellText => false
  | _ => true

end Dialect

/-- What an escape stands for. -/
inductive Escape where
  | bytes (value : List Char)
  /-- The output ends here. -/
  | cut
  | refused (message : String)
deriving DecidableEq, Inhabited

/-- The byte of digits at the start of a text, of which at most some are read, and how many
there were. -/
def digitByte (base limit : Nat) (cs : List Char) : Char × Nat :=
  let digits := digitsOf base (cs.take limit)
  (Char.ofNat (digits.foldl (fun n d => n * base + d) 0 % 256), digits.length)

/-- The escapes of one letter. -/
def letterEscapes : List (Char × Nat) :=
  [('\\', 0x5c), ('a', 7), ('b', 8), ('e', 0x1b), ('f', 12), ('n', 10), ('r', 13), ('t', 9),
    ('v', 11)]

/-- A character by so many hexadecimal digits of its number. -/
def numberedChar (letter : Char) (digits : Nat) (cs : List Char) : Escape :=
  let found := digitsOf 16 (cs.take digits)
  let n := found.foldl (fun n d => n * 16 + d) 0
  if found.length < digits then .refused "missing hexadecimal number in escape"
  else if (n ≤ 0x9f ∧ n ≠ 0x24 ∧ n ≠ 0x40 ∧ n ≠ 0x60) ∨ (0xd800 ≤ n ∧ n ≤ 0xdfff) then
    .refused ("invalid universal character name \\" ++
      String.ofList (letter :: (cs.take digits).map Char.toLower))
  else .bytes (Raw.Glyph.raw (.char (Char.ofNat n)))

/-- The escape after a backslash, and what follows it. Where there is none the backslash
stands for itself. -/
def readEscape (dialect : Dialect) (cs : List Char) : Escape × List Char :=
  let plain : Escape × List Char := (.bytes ['\\'], cs)
  let octal (cs : List Char) : Escape × List Char :=
    let (c, length) := digitByte 8 3 cs
    (.bytes [c], cs.drop length)
  match cs with
  | [] => plain
  | c :: rest =>
    match letterEscapes.lookup c with
    | some code => (.bytes [Char.ofNat code], rest)
    | none =>
      if c = 'c' ∧ dialect.hasCut then (.cut, rest)
      else if '0' ≤ c ∧ c ≤ '7' then
        let skipsZero : Bool := c == '0' && match dialect with
          | .shellText => rest.head?.any fun d => '0' ≤ d && d ≤ '7'
          | .programText | .programEcho => true
          | _ => false
        octal (if skipsZero then rest else cs)
      else if c = 'x' ∧ dialect.isProgram then
        let (byte, length) := digitByte 16 2 rest
        if 0 < length then (.bytes [byte], rest.drop length)
        else if dialect = .programEcho then plain
        else (.refused "missing hexadecimal number in escape", rest)
      else match dialect with
        | .programFormat | .programText =>
          if c = '"' then (.bytes ['"'], rest)
          else if c = 'u' then (numberedChar 'u' 4 rest, rest.drop 4)
          else if c = 'U' then (numberedChar 'U' 8 rest, rest.drop 8)
          else plain
        | _ => plain

/-- The bytes of a text with its escapes replaced, and how it ends before its end, if it does.
The length of the text is fuel enough. -/
def unescape (dialect : Dialect) : Nat → List Char → List Char × Option Escape
  | 0, _ | _, [] => ([], none)
  | fuel + 1, '\\' :: rest =>
    match readEscape dialect rest with
    | (.bytes cs, rest) =>
      let (more, ending) := unescape dialect fuel rest
      (cs ++ more, ending)
    | (ending, _) => ([], some ending)
  | fuel + 1, c :: rest =>
    let (more, ending) := unescape dialect fuel rest
    (c :: more, ending)

/-! ### The state of a format -/

/-- What has been written, and the arguments that are left. -/
structure Formatting where
  isProgram : Bool
  /-- What stands before every message. -/
  label : Raw
  arguments : List Raw
  /-- What has been written to which stream. -/
  written : List (Nat × Raw) := []
  output : List Char := []
  status : Nat := 0
deriving Inhabited

/-- An action that may be the last one. -/
abbrev Formatter := ExceptT Unit (StateM Formatting)

namespace Formatter

/-- Writes bytes. -/
def put (cs : List Char) : Formatter Unit :=
  modify fun s => { s with output := s.output ++ cs }

/-- Writes a message. A program first writes what it has held back. -/
def complain (message : Raw) : Formatter Unit :=
  modify fun s =>
    let s := if s.isProgram then
        { s with written := s.written ++ [(1, String.ofList s.output)], output := [] }
      else s
    { s with written := s.written ++ [(2, s.label ++ ": " ++ message ++ "\n")] }

/-- Complains, and goes on. -/
def warn (message : Raw) : Formatter Unit := do
  complain message
  modify fun s => { s with status := 1 }

/-- Complains, and ends. -/
def refuse {α : Type} (message : Raw) : Formatter α := do
  complain message
  modify fun s => { s with status := if s.isProgram then 1 else 2 }
  throw ()

/-- The next argument, if there is one. -/
def argument? : Formatter (Option Raw) :=
  modifyGet fun s => (s.arguments.head?, { s with arguments := s.arguments.drop 1 })

/-- A text between the quotes of a program. -/
def quoted (text : Raw) : Raw :=
  Raw.ofText "‘" ++ text ++ Raw.ofText "’"

/-- Complains about what follows the number in an argument, if anything does. -/
def checkRest (argument : Raw) (rest : List Char) (outOfRange : Bool) : Formatter Unit := do
  let isProgram := (← get).isProgram
  let shown := if isProgram then quoted argument else argument
  if rest ≠ [] then
    if rest = argument.toList then
      warn (shown ++ if isProgram then ": expected a numeric value"
        else ": expected numeric value")
    else
      warn (shown ++ if isProgram then ": value not completely converted"
        else ": not completely converted")
  else if outOfRange then warn (shown ++ ": Numerical result out of range")

/-- The number of the character after a quote. -/
def characterNumber (isProgram : Bool) (cs : List Char) : Nat :=
  match cs with
  | [] => 0
  | c :: _ =>
    if isProgram then ((Raw.firstChar? cs).map fun (c, _) => c.toNat).getD c.toNat
    else c.toNat

/-- The number of an argument between two bounds. -/
def integer (low high : Int) : Formatter Int := do
  match ← argument? with
  | none => return 0
  | some argument =>
    match argument.toList with
    | '"' :: rest | '\'' :: rest => return characterNumber (← get).isProgram rest
    | cs =>
      let (n, rest) := (readInteger? cs).getD (0, cs)
      checkRest argument rest (n < low || high < n)
      return max low (min high n)

/-- A number with a fraction of an argument: its sign and its magnitude. -/
def decimal : Formatter (Bool × Magnitude) := do
  match ← argument? with
  | none => return (false, .fraction 0 1)
  | some argument =>
    match argument.toList with
    | '"' :: rest | '\'' :: rest =>
      return (false, .fraction (characterNumber (← get).isProgram rest) 1)
    | cs =>
      let (negative, body) := match cs.dropWhile isSpace with
        | '-' :: body => (true, body)
        | '+' :: body => (false, body)
        | body => (false, body)
      match Magnitude.read? body with
      | some (m, rest) =>
        checkRest argument rest false
        return (negative, m)
      | none =>
        checkRest argument cs false
        return (false, .fraction 0 1)

/-! ### Directives -/

/-- How a directive writes its argument. -/
structure Directive where
  flags : List Char
  width : Int
  precision : Option Int
  /-- What stands after the percent sign. -/
  text : List Char
deriving Inhabited

/-- A body in its field: blanks or zeros before it, or blanks after it. Zeros stand after the
sign. -/
def Directive.pad (d : Directive) (zeros : Bool) (sign body : List Char) : List Char :=
  let width := d.width.natAbs
  let fill := width - (sign.length + body.length)
  if d.flags.contains '-' ∨ d.width < 0 then sign ++ body ++ List.replicate fill ' '
  else if zeros ∧ d.flags.contains '0' then sign ++ List.replicate fill '0' ++ body
  else List.replicate fill ' ' ++ sign ++ body

/-- The sign before a number. -/
def Directive.sign (d : Directive) (negative : Bool) : List Char :=
  if negative then ['-'] else if d.flags.contains '+' then ['+']
  else if d.flags.contains ' ' then [' '] else []

/-- The precision of a directive; a negative one counts as none. -/
def Directive.places? (d : Directive) : Option Nat :=
  match d.precision with
  | some n => if 0 ≤ n then some n.toNat else none
  | none => none

/-- A text in its field. -/
def Directive.ofText (d : Directive) (text : List Char) : List Char :=
  d.pad false [] (match d.places? with
    | some n => text.take n
    | none => text)

/-- A number with a sign in its field. -/
def Directive.ofInteger (d : Directive) (n : Int) : List Char :=
  let digits := if n = 0 ∧ d.places? = some 0 then [] else Nat.toDigits 10 n.natAbs
  let body := List.replicate ((d.places?.getD 0) - digits.length) '0' ++ digits
  d.pad d.places?.isNone (d.sign (n < 0)) body

/-- A number without a sign in its field, in the base of a letter. -/
def Directive.ofNatural (d : Directive) (letter : Char) (n : Nat) : List Char :=
  let base := if letter = 'o' then 8 else if letter = 'u' then 10 else 16
  let digits := if n = 0 ∧ d.places? = some 0 then [] else Nat.toDigits base n
  let digits := if letter = 'X' then digits.map Char.toUpper else digits
  let body := List.replicate ((d.places?.getD 0) - digits.length) '0' ++ digits
  let alternate := d.flags.contains '#'
  let body := if alternate ∧ letter = 'o' ∧ body.head? ≠ some '0' then '0' :: body else body
  let mark := if alternate ∧ base = 16 ∧ n ≠ 0 then ['0', letter] else []
  d.pad d.places?.isNone mark body

/-- A number with a fraction in its field. -/
def Directive.ofDecimal (d : Directive) (letter : Char) (bits : Nat) (negative : Bool)
    (m : Magnitude) : List Char :=
  let body := m.render letter (d.flags.contains '#') bits (d.places?.getD 6)
  let isFinite := match m with
    | .fraction .. => true
    | _ => false
  d.pad isFinite (d.sign negative) body

/-- A text as the shell would have to be given it. -/
def shellQuoted (text : List Char) : List Char :=
  let isSafe (c : Char) : Bool :=
    c.isAlphanum || ['_', '-', '.', '/', ',', ':', '@', '%', '+', '='].contains c ||
      0x80 ≤ c.toNat
  let named (c : Char) : Option Char :=
    [('\x07', 'a'), ('\x08', 'b'), ('\t', 't'), ('\n', 'n'), ('\x0b', 'v'), ('\x0c', 'f'),
      ('\x0d', 'r')].lookup c
  if text ≠ [] ∧ text.all isSafe then text
  else if text.contains '\'' ∧ ¬ text.any (fun c => c == '"' || c == '$' || c == '\x60' ||
      c == '\\' || c == '!' || c < ' ') then '"' :: text ++ ['"']
  else
    '\'' :: text.flatMap (fun c =>
      if c = '\'' then "'\\''".toList
      else match named c with
        | some letter => ("'$'\\" ++ String.singleton letter ++ "''").toList
        | none => [c]) ++ ['\'']

/-- Writes an argument as a directive says; the letter has been found to be one that is
known. -/
def writeArgument (d : Directive) (letter : Char) : Formatter Unit := do
  let isProgram := (← get).isProgram
  if letter = 's' then
    let text := (← argument?).getD ""
    put (d.ofText text.toList)
  else if letter = 'c' then
    let text := (← argument?).getD ""
    put (d.pad false [] [text.toList.headD '\x00'])
  else if letter = 'd' ∨ letter = 'i' then
    let n ← integer (-greatest64 - 1) greatest64
    put (d.ofInteger n)
  else if ['o', 'u', 'x', 'X'].contains letter then
    let n ← integer (-0xffffffffffffffff) 0xffffffffffffffff
    put (d.ofNatural letter (n % 0x10000000000000000).toNat)
  else
    let (negative, m) ← decimal
    put (d.ofDecimal letter (if isProgram then 64 else 53) negative m)

/-- Writes an argument whose escapes are replaced. -/
def writeEscaped (d : Directive) : Formatter Unit := do
  let isProgram := (← get).isProgram
  let dialect := if isProgram then Dialect.programText else Dialect.shellText
  match ← argument? with
  | none => if ¬ isProgram then put (d.ofText [])
  | some text =>
    let (cs, ending) := unescape dialect (text.length + 1) text.toList
    put (if isProgram then cs else d.ofText cs)
    match ending with
    | some (.refused message) => refuse message
    | some _ => throw ()
    | none => return ()

/-- A width or a precision: a number, or a star for an argument. Gives it with what follows
and how long it was. -/
def readExtent (cs : List Char) : Formatter (Int × List Char) := do
  match cs with
  | '*' :: rest => return (← integer (-0x80000000) 0x7fffffff, rest)
  | cs =>
    let digits := cs.takeWhile Char.isDigit
    return (Nat.ofDigitChars 10 digits 0, cs.drop digits.length)

/-- The letters that a directive of the program may end with after its flags. -/
def allowedLetters (d : Directive) : List Char :=
  let has (flags : List Char) : Bool := d.flags.any flags.contains
  let drop (isDropped : Bool) (letters : List Char) (allowed : List Char) : List Char :=
    if isDropped then allowed.filter fun c => !letters.contains c else allowed
  drop (has ['\'', 'I']) ['c', 'e', 'E', 'o', 's', 'x', 'X'] <|
    drop (has ['#']) ['c', 'd', 'i', 's', 'u'] <|
    drop (has ['0']) ['c', 's'] <|
    drop d.precision.isSome ['c']
      ['c', 'd', 'e', 'E', 'f', 'F', 'g', 'G', 'i', 'o', 's', 'u', 'x', 'X']

/-- Writes what a directive stands for, from after its percent sign; gives what follows. -/
def directive (cs : List Char) : Formatter (List Char) := do
  let isProgram := (← get).isProgram
  let flagLetters := ['#', '-', '+', ' ', '0'] ++ if isProgram then ['\'', 'I'] else []
  let flags := cs.takeWhile flagLetters.contains
  let rest := cs.drop flags.length
  let (width, rest) ← readExtent rest
  let (precision, rest) ← match rest with
    | '.' :: rest => do
      let (n, rest) ← readExtent rest
      pure (some n, rest)
    | rest => pure (none, rest)
  let rest := if isProgram then rest.dropWhile ['l', 'L', 'h', 'j', 't', 'z'].contains else rest
  let text := cs.take (cs.length - rest.length + 1)
  let d : Directive := { flags, width, precision, text }
  let shown := "%" ++ String.ofList text
  match rest with
  | [] =>
    if isProgram then refuse (shown ++ ": invalid conversion specification")
    else refuse "missing format character"
  | letter :: rest =>
    if letter = 'b' ∧ (¬ isProgram ∨ text = ['b']) then
      writeEscaped d
      return rest
    else if letter = 'q' ∧ isProgram ∧ text = ['q'] then
      match ← argument? with
      | some text => put (shellQuoted text.toList)
      | none => pure ()
      return rest
    else if isProgram ∧ ¬ (allowedLetters d).contains letter then
      refuse (shown ++ ": invalid conversion specification")
    else if ¬ ['c', 'd', 'e', 'E', 'f', 'F', 'g', 'G', 'i', 'o', 's', 'u', 'x', 'X'].contains
        letter then
      refuse (shown ++ ": invalid directive")
    else
      writeArgument d letter
      return rest

/-- One pass over a format. The length of the format is fuel enough. -/
def pass : Nat → List Char → Formatter Unit
  | 0, _ | _, [] => return ()
  | fuel + 1, '\\' :: rest => do
    let dialect := if (← get).isProgram then Dialect.programFormat else Dialect.shellFormat
    match readEscape dialect rest with
    | (.bytes cs, rest) =>
      put cs
      pass fuel rest
    | (.cut, _) => throw ()
    | (.refused message, _) => refuse message
  | fuel + 1, '%' :: '%' :: rest => do
    put ['%']
    pass fuel rest
  | fuel + 1, '%' :: rest => do
    let rest ← directive rest
    pass fuel rest
  | fuel + 1, c :: rest => do
    put [c]
    pass fuel rest

/-- Passes over a format as long as they use arguments up. -/
def passes (format : List Char) : Nat → Formatter Unit
  | 0 => return ()
  | fuel + 1 => do
    let before := (← get).arguments.length
    pass (format.length + 1) format
    let after := (← get).arguments.length
    if after ≠ 0 ∧ after ≠ before then passes format fuel

/-- What `printf` writes to which stream for a format and its arguments, and its status. A
program complains about arguments that the format has no use for. -/
def run (isProgram : Bool) (label format : Raw) (arguments : List Raw) :
    List (Nat × Raw) × Nat :=
  let all : Formatter Unit := do
    passes format.toList (arguments.length + 1)
    match (← get).arguments with
    | first :: _ =>
      if isProgram then
        complain ("warning: ignoring excess arguments, starting with " ++ quoted first)
    | [] => return ()
  let s : Formatting := (ExceptT.run all |>.run { isProgram, label, arguments }).2
  (s.written ++ [(1, String.ofList s.output)], s.status)

end Formatter

end LintHost.Shell
