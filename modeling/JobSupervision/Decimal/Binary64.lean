/-
# Binary floating point numbers

A number of the binary64 format is kept as its sign, its integer mantissa and its exponent,
and arithmetic on it is exact arithmetic on rationals followed by one rounding to nearest,
ties to even.  There are no infinities here: a result beyond the greatest number is `none`,
and whoever asked decides what that means.
-/

namespace JobSupervision.Decimal

/-- The finite number `± mantissa · 2 ^ exponent`.  A number made by `round` has the least
exponent its format allows, so equal numbers of one sign have equal fields. -/
structure Binary64 where
  /-- Whether the number carries a minus sign; zero may carry one. -/
  negative : Bool
  /-- The integer mantissa, below `2 ^ 53`. -/
  mantissa : Nat
  /-- The power of two that scales the mantissa. -/
  exponent : Int
deriving DecidableEq, Repr, Inhabited

namespace Binary64

/-- The least exponent of the format. -/
def minExponent : Int := -1074

/-- The greatest exponent of the format. -/
def maxExponent : Int := 971

/-- Zero with the given sign. -/
def zero (negative : Bool) : Binary64 := ⟨negative, 0, minExponent⟩

/-- The quotient `num / den` rounded to an integer, a half going to the even neighbour. -/
def roundQuotient (num den : Nat) : Nat :=
  let q := num / den
  let r := num % den
  if 2 * r < den then q
  else if den < 2 * r then q + 1
  else if q % 2 = 0 then q else q + 1

/-- `num / den / 2 ^ e` as a numerator and a denominator. -/
def scaled (num den : Nat) (e : Int) : Nat × Nat :=
  if 0 ≤ e then (num, den * Nat.pow 2 e.toNat) else (num * Nat.pow 2 (-e).toNat, den)

/-- The exponent at which the positive rational `num / den` has a mantissa of 53 bits, or
the least exponent if it is too small for that. -/
def exponentOf (num den : Nat) : Int :=
  let e : Int := (Nat.log2 num : Int) - (Nat.log2 den : Int) - 53
  let (n, d) := scaled num den e
  max minExponent (if Nat.pow 2 53 ≤ n / d then e + 1 else e)

/-- The number nearest to `± num / den`, or `none` beyond the greatest number.  The
denominator is positive. -/
def round (negative : Bool) (num den : Nat) : Option Binary64 :=
  if num = 0 then some (zero negative)
  else
    let e := exponentOf num den
    let (n, d) := scaled num den e
    let m := roundQuotient n d
    let (m, e) := if m = Nat.pow 2 53 then (Nat.pow 2 52, e + 1) else (m, e)
    if maxExponent < e then none else some ⟨negative, m, e⟩

/-- Whether a number is zero, of either sign. -/
def isZero (x : Binary64) : Bool := x.mantissa = 0

/-- The magnitude of a number as a numerator and a denominator. -/
def ratio (x : Binary64) : Nat × Nat :=
  if 0 ≤ x.exponent then (x.mantissa * Nat.pow 2 x.exponent.toNat, 1)
  else (x.mantissa, Nat.pow 2 (-x.exponent).toNat)

/-- The number nearest to a natural number. -/
def ofNat (n : Nat) : Option Binary64 := round false n 1

/-- The rounded product. -/
def mul (x y : Binary64) : Option Binary64 :=
  let (a, b) := x.ratio
  let (c, d) := y.ratio
  round (x.negative != y.negative) (a * c) (b * d)

/-- The rounded quotient by a number that is not zero. -/
def div (x y : Binary64) : Option Binary64 :=
  let (a, b) := x.ratio
  let (c, d) := y.ratio
  round (x.negative != y.negative) (a * d) (b * c)

/-- The rounded sum of two numbers that are not negative. -/
def addMagnitudes (x y : Binary64) : Option Binary64 :=
  let (a, b) := x.ratio
  let (c, d) := y.ratio
  round false (a * d + c * b) (b * d)

/-- The number with its sign turned. -/
def neg (x : Binary64) : Binary64 := { x with negative := !x.negative }

/-- The number nearest to `10 ^ k`. -/
def powTen (k : Nat) : Option Binary64 := ofNat (Nat.pow 10 k)

end Binary64

end JobSupervision.Decimal
