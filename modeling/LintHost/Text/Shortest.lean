/-!
# The shortest decimal of a binary fraction

A double-precision number that a message shows is printed with the fewest digits that read
back as its value. Everything is computed with
whole numbers: a double is `mantissa * 2 ^ exponent`, rounding is a division, and a decimal
reads back if it lies between the midpoints to the neighbouring doubles.

`Text.nearestDouble` rounds a decimal to a double, `Text.shortest` finds the digits, and
`Text.renderDecimal` writes them: positionally for magnitudes between 10⁻⁵ and 10¹⁶, with an
exponent, whose sign is always written, otherwise.
-/

namespace LintHost.Text

/-- The value `mantissa * 2 ^ exponent`. -/
structure Double where
  mantissa : Nat
  exponent : Int
deriving DecidableEq, Inhabited

/-- The value `digits * 10 ^ exponent`. -/
structure Decimal where
  digits : Nat
  exponent : Int
deriving DecidableEq, Inhabited

/-! ### Rounding to a double -/

/-- The whole number nearest to `num / den`; halves go to the even neighbour. -/
def divNearestEven (num den : Nat) : Nat :=
  let q := num / den
  let r := 2 * (num % den)
  if den < r then q + 1 else if r < den then q else if q % 2 = 0 then q else q + 1

/-- `num / den` times a power of two, as a new numerator and denominator. -/
def scaleTwo (num den : Nat) (e : Int) : Nat × Nat :=
  if 0 ≤ e then (num * Nat.pow 2 e.toNat, den) else (num, den * Nat.pow 2 (-e).toNat)

/-- The double nearest to `num / den` with 53 bits and no exponent below the least. -/
def nearestDouble (num den : Nat) : Double :=
  if num = 0 then ⟨0, 0⟩
  else
    let guess : Int := (Nat.log2 num : Int) - Nat.log2 den
    let scaled := scaleTwo num den (-guess)
    let top := if scaled.1 < scaled.2 then guess - 1 else guess
    let exponent := max (top - 52) (-1074)
    let scaled := scaleTwo num den (-exponent)
    let mantissa := divNearestEven scaled.1 scaled.2
    if mantissa = Nat.pow 2 53 then ⟨Nat.pow 2 52, exponent + 1⟩ else ⟨mantissa, exponent⟩

/-- The double nearest to a decimal. -/
def Decimal.toDouble (d : Decimal) : Double :=
  if 0 ≤ d.exponent then nearestDouble (d.digits * Nat.pow 10 d.exponent.toNat) 1
  else nearestDouble d.digits (Nat.pow 10 (-d.exponent).toNat)

/-! ### The digits -/

/-- Whether a decimal reads back as the double. -/
def Double.isReadFrom (x : Double) (d : Decimal) : Bool :=
  d.toDouble == x

/-- The distance of `digits * 10 ^ e` from `num / den`, times a factor that does not depend
on `digits`. -/
def distance (num den : Nat) (e : Int) (digits : Nat) : Nat :=
  let a := if 0 ≤ e then digits * Nat.pow 10 e.toNat * den else digits * den
  let b := if 0 ≤ e then num else num * Nat.pow 10 (-e).toNat
  (a - b) + (b - a)

/-- The better of the two neighbours of a double on the decimal grid of step `10 ^ e` that
read back as the double: the nearer one, and of two that are equally near the even one. -/
def neighbour? (x : Double) (e : Int) : Option Decimal :=
  let (num, den) := scaleTwo x.mantissa 1 x.exponent
  let low := if 0 ≤ e then num / (den * Nat.pow 10 e.toNat) else num * Nat.pow 10 (-e).toNat / den
  match x.isReadFrom ⟨low, e⟩, x.isReadFrom ⟨low + 1, e⟩ with
  | true, true =>
    let below := distance num den e low
    let above := distance num den e (low + 1)
    if below < above ∨ (below = above ∧ low % 2 = 0) then some ⟨low, e⟩ else some ⟨low + 1, e⟩
  | true, false => some ⟨low, e⟩
  | false, true => some ⟨low + 1, e⟩
  | false, false => none

/-- The decimal with the fewest digits that reads back as the double, found on ever finer
grids from the power of ten above it. -/
def shortest (x : Double) : Decimal :=
  if x.mantissa = 0 then ⟨0, 0⟩
  else
    let (num, den) := scaleTwo x.mantissa 1 x.exponent
    let magnitude : Int := (Nat.toDigits 10 num).length - (Nat.toDigits 10 den).length
    let grids := (List.range 20).map fun n : Nat => magnitude + 1 - (n : Int)
    (grids.findSome? (neighbour? x)).getD ⟨x.mantissa, x.exponent⟩

/-! ### Writing -/

/-- Drops the zeros at the end of the digits. -/
def dropZeros : List Char → List Char :=
  fun ds => (ds.reverse.dropWhile (· == '0')).reverse

/-- The number from its digits and the place of its point, counted from the first digit. -/
def renderDecimal (d : Decimal) : List Char :=
  if d.digits = 0 then ['0', '.', '0']
  else
    let all := Nat.toDigits 10 d.digits
    let digits := dropZeros all
    let length : Int := digits.length
    let point : Int := all.length + d.exponent
    if length ≤ point ∧ point ≤ 16 then
      digits ++ List.replicate (point - length).toNat '0' ++ ['.', '0']
    else if 0 < point ∧ point ≤ 16 then
      digits.take point.toNat ++ '.' :: digits.drop point.toNat
    else if -5 < point ∧ point ≤ 0 then
      ['0', '.'] ++ List.replicate (-point).toNat '0' ++ digits
    else
      let fraction := match digits.drop 1 with
        | [] => []
        | ds => '.' :: ds
      let e := point - 1
      digits.take 1 ++ fraction ++ 'e' ::
        (if e < 0 then '-' else '+') :: Nat.toDigits 10 e.natAbs

/-- The shortest text of a double, negative or not. -/
def renderDouble (negative : Bool) (x : Double) : List Char :=
  (if negative then ['-'] else []) ++ renderDecimal (shortest x)

end LintHost.Text
