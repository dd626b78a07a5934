import LintHost.Json

/-!
# The value of a written number

A number without a point and an exponent that fits into 64 bits is a whole number. Any other
is a double, and not always the nearest one: the digits are first collected in a word of 64
bits, those that no longer fit are dropped, the word is rounded to a double, and that is
multiplied or divided by a power of ten that is itself rounded. `JsonNumber.ofDigits?` follows
these roundings one by one, since a message may show the result. A number too large for a
double has no value.
-/

namespace LintHost.JsonNumber

open Text (Double nearestDouble scaleTwo)

/-! ### Digits in a word -/

/-- A word to which digits are appended as long as the result fits into 64 bits, and the
digits that are left over. -/
def appendDigits (word : Nat) : List Char → Nat × List Char
  | [] => (word, [])
  | d :: ds =>
    let next := word * 10 + (d.toNat - '0'.toNat)
    if next < 0x10000000000000000 then appendDigits next ds else (word, d :: ds)

/-! ### Scaling by a power of ten -/

/-- The double nearest to a power of ten. -/
def powerOfTen (n : Nat) : Double :=
  nearestDouble (Nat.pow 10 n) 1

/-- The double nearest to the quotient of two doubles. -/
def divide (x y : Double) : Double :=
  let (num, den) := scaleTwo x.mantissa y.mantissa (x.exponent - y.exponent)
  nearestDouble num den

/-- The double nearest to the product of two doubles, if it is not too large for one. -/
def multiply? (x y : Double) : Option Double :=
  let (num, den) := scaleTwo (x.mantissa * y.mantissa) 1 (x.exponent + y.exponent)
  let product := nearestDouble num den
  if 971 < product.exponent then none else some product

/-- The greatest power of ten that is a double. -/
def greatestPower : Nat := 308

/-- A double times a power of ten. A power beyond the greatest is divided by in two steps,
and leaves nothing of a word if two are not enough. -/
def scaleTen? (x : Double) (e : Int) : Option Double :=
  if x.mantissa = 0 then some ⟨0, 0⟩
  else if 0 ≤ e then
    if e ≤ greatestPower then multiply? x (powerOfTen e.toNat) else none
  else
    let n := (-e).toNat
    if n ≤ greatestPower then some (divide x (powerOfTen n))
    else if n ≤ 2 * greatestPower then
      some (divide (divide x (powerOfTen greatestPower)) (powerOfTen (n - greatestPower)))
    else some ⟨0, 0⟩

/-! ### Numbers -/

/-- The number with the given digits before and after the point; `exponent` is the written
exponent, if there is one. -/
def ofDigits? (negative : Bool) (whole fraction : List Char) (exponent : Option Int) :
    Option JsonNumber :=
  let (word, dropped) := appendDigits 0 whole
  let value : Int := if negative then -word else word
  if fraction = [] ∧ exponent = none ∧ dropped = [] ∧ fits value ∧ ¬(negative ∧ word = 0) then
    some (.whole value)
  else
    let (word, ignored) := appendDigits word fraction
    let scale : Int := dropped.length - (fraction.length - ignored.length : Nat)
    (scaleTen? (nearestDouble word 1) (scale + exponent.getD 0)).map (.fraction negative)

end LintHost.JsonNumber
