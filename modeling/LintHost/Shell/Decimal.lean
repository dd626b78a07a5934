import LintHost.Shell.Arithmetic

/-!
# Numbers with a fraction

How `printf` writes numbers with a fraction. A text is read as a fraction of whole numbers and
rounded to so many binary digits as a machine keeps; what that is exactly is then written with
as many decimal digits as are asked for. Halves go to the even neighbour both times.
-/

namespace LintHost.Shell

/-- A number that is not negative, or none. -/
inductive Magnitude where
  | fraction (numerator denominator : Nat)
  | infinite
  | undefined
deriving DecidableEq, Inhabited

namespace Magnitude

/-- A quotient rounded to a whole number. -/
def roundDiv (n d : Nat) : Nat :=
  let q := n / d
  let r := n % d
  if d < 2 * r ∨ (d = 2 * r ∧ q % 2 = 1) then q + 1 else q

/-- A fraction times a power of a base. -/
def scale (base : Nat) (exponent : Int) (n d : Nat) : Nat × Nat :=
  if 0 ≤ exponent then (n * Nat.pow base exponent.toNat, d)
  else (n, d * Nat.pow base (-exponent).toNat)

/-- A fraction rounded to so many binary digits. -/
def roundBits (bits n d : Nat) : Nat × Nat :=
  if n = 0 then (0, 1)
  else
    let guess : Int := (n.log2 : Int) - d.log2 - bits + 1
    let at_ (e : Int) : Nat :=
      let (n, d) := scale 2 (-e) n d
      roundDiv n d
    let e := if at_ guess < Nat.pow 2 (bits - 1) then guess - 1 else guess
    scale 2 e (at_ e) 1

/-! ### Reading -/

/-- The digits at the start of a text. -/
def leadingDigits (cs : List Char) : List Char :=
  cs.takeWhile Char.isDigit

/-- An exponent after `e`, if there is one, and what follows it. -/
def readExponent (cs : List Char) : Int × List Char :=
  match cs with
  | e :: rest =>
    if e = 'e' ∨ e = 'E' then
      let (sign, body) : Int × List Char :=
        match rest with
        | '-' :: body => (-1, body)
        | '+' :: body => (1, body)
        | body => (1, body)
      match leadingDigits body with
      | [] => (0, cs)
      | digits => (sign * Nat.ofDigitChars 10 digits 0, body.drop digits.length)
    else (0, cs)
  | [] => (0, [])

/-- Whether a text starts with a word in any case. -/
def startsWith (word : String) (cs : List Char) : Bool :=
  word.toList.isPrefixOf (cs.map Char.toLower)

/-- The magnitude at the start of a text, and what follows it. -/
def read? (cs : List Char) : Option (Magnitude × List Char) :=
  if startsWith "infinity" cs then some (.infinite, cs.drop 8)
  else if startsWith "inf" cs then some (.infinite, cs.drop 3)
  else if startsWith "nan" cs then some (.undefined, cs.drop 3)
  else if startsWith "0x" cs then
    (readNatural? cs).map fun (n, rest) => (.fraction n 1, rest)
  else
    let whole := leadingDigits cs
    let rest := cs.drop whole.length
    let (places, rest) := match rest with
      | '.' :: rest =>
        let places := leadingDigits rest
        (places, rest.drop places.length)
      | rest => ([], rest)
    if whole.isEmpty ∧ places.isEmpty then none
    else
      let (exponent, rest) := readExponent rest
      let (n, d) := scale 10 (exponent - places.length)
        (Nat.ofDigitChars 10 (whole ++ places) 0) 1
      some (.fraction n d, rest)

/-! ### Writing -/

/-- Digits with zeros before them up to a length. -/
def padDigits (length n : Nat) : List Char :=
  let digits := Nat.toDigits 10 n
  List.replicate (length - digits.length) '0' ++ digits

/-- Digits with a point before the last ones. -/
def withPoint (alternate : Bool) (places : Nat) (digits : List Char) : List Char :=
  let whole := digits.take (digits.length - places)
  if places = 0 then if alternate then whole ++ ['.'] else whole
  else whole ++ '.' :: digits.drop (digits.length - places)

/-- A fraction with so many places. -/
def fixed (alternate : Bool) (places n d : Nat) : List Char :=
  withPoint alternate places (padDigits (places + 1) (roundDiv (n * Nat.pow 10 places) d))

/-- The power of ten that a fraction is not below, and its digits from there on. -/
def leading (places n d : Nat) : Int × Nat :=
  if n = 0 then (0, 0)
  else
    let high : Int := (Nat.toDigits 10 (n / d)).length - 1
    let low : Int := (Nat.toDigits 10 ((d - 1) / n)).length
    let x := if d ≤ n then high else
      -- `1 / v` has as many digits before the point as `v` has places to the first digit
      let (n', d') := scale 10 low n d
      if d' ≤ n' then -low else -low - 1
    let digits (x : Int) : Nat :=
      let (n, d) := scale 10 (places - x) n d
      roundDiv n d
    if Nat.pow 10 (places + 1) ≤ digits x then (x + 1, digits (x + 1)) else (x, digits x)

/-- An exponent of at least two digits. -/
def exponentText (x : Int) : List Char :=
  'e' :: (if x < 0 then '-' else '+') :: padDigits 2 x.natAbs

/-- A fraction with one digit before the point and a power of ten. -/
def scientific (alternate : Bool) (places n d : Nat) : List Char :=
  let (x, digits) := leading places n d
  withPoint alternate places (padDigits (places + 1) digits) ++ exponentText x

/-- Digits without the zeros at the end of their places. -/
def dropZeros (cs : List Char) : List Char :=
  if cs.contains '.' then
    ((cs.reverse.dropWhile (· = '0')).dropWhile (· = '.')).reverse
  else cs

/-- A fraction with so many digits, in the shorter of the two forms. -/
def general (alternate : Bool) (digits n d : Nat) : List Char :=
  let digits := max 1 digits
  let (x, _) := leading (digits - 1) n d
  let tidy (cs : List Char) : List Char := if alternate then cs else dropZeros cs
  if x < -4 ∨ (digits : Int) ≤ x then
    let body := scientific alternate (digits - 1) n d
    tidy (body.takeWhile (· ≠ 'e')) ++ body.dropWhile (· ≠ 'e')
  else tidy (fixed alternate ((digits : Int) - 1 - x).toNat n d)

/-- A magnitude in the form of a letter, with so many places or digits. -/
def render (letter : Char) (alternate : Bool) (bits places : Nat) (m : Magnitude) : List Char :=
  let lower := match m with
    | .infinite => "inf".toList
    | .undefined => "nan".toList
    | .fraction n d =>
      let (n, d) := roundBits bits n d
      if letter.toLower = 'e' then scientific alternate places n d
      else if letter.toLower = 'g' then general alternate places n d
      else fixed alternate places n d
  if letter.isUpper then lower.map Char.toUpper else lower

end Magnitude

end LintHost.Shell
