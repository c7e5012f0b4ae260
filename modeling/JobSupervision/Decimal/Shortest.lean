/-
# Shortest decimals

The decimal with the fewest digits that reads back as a given binary number, and of those
the nearest one.  The rationals that read back as a number form an interval around it; for
one digit, two digits and so on, the two decimals next to the number on that grid are
tested, and the first grid with a hit decides.
-/
import JobSupervision.Decimal.Binary64

namespace JobSupervision.Decimal

/-- The positive number `digits · 10 ^ exponent`. -/
structure Scientific where
  /-- The significant digits, as one number. -/
  digits : Nat
  /-- The power of ten that scales the digits. -/
  exponent : Int
deriving DecidableEq, Repr

namespace Scientific

/-- The same number with the zeros at the end of its digits moved into the exponent.  The
fuel bounds the zeros. -/
def strip : (fuel : Nat) → Scientific → Scientific
  | 0, s => s
  | fuel + 1, s =>
    if s.digits ≠ 0 ∧ s.digits % 10 = 0 then strip fuel ⟨s.digits / 10, s.exponent + 1⟩ else s

/-- The digits as characters. -/
def digitChars (s : Scientific) : List Char := Nat.toDigits 10 s.digits

/-- The position of the decimal point, counted from the front of the digits. -/
def point (s : Scientific) : Int := (s.digitChars.length : Int) + s.exponent

end Scientific

/-- The interval of rationals that read back as one number, over a common denominator. -/
structure Interval where
  /-- The lower end. -/
  low : Nat
  /-- The number itself. -/
  value : Nat
  /-- The upper end. -/
  high : Nat
  /-- The common denominator. -/
  den : Nat
  /-- Whether the two ends belong to the interval. -/
  closed : Bool

/-- The interval of a number other than zero.  Below a power of two the numbers are twice
as dense, so the interval is shorter on that side. -/
def Binary64.interval (x : Binary64) : Interval :=
  let m := x.mantissa
  let lower := if m = Nat.pow 2 52 ∧ Binary64.minExponent < x.exponent then 4 * m - 1 else 4 * m - 2
  let scale := if 0 ≤ x.exponent then Nat.pow 2 x.exponent.toNat else 1
  let den := if 0 ≤ x.exponent then 4 else 4 * Nat.pow 2 (-x.exponent).toNat
  ⟨lower * scale, 4 * m * scale, (4 * m + 2) * scale, den, m % 2 = 0⟩

namespace Interval

/-- Whether the decimal `d · 10 ^ k` lies in the interval. -/
def contains (i : Interval) (d : Nat) (k : Int) : Bool :=
  let left := if 0 ≤ k then d * Nat.pow 10 k.toNat * i.den else d * i.den
  let scale := if 0 ≤ k then 1 else Nat.pow 10 (-k).toNat
  if i.closed then i.low * scale ≤ left && left ≤ i.high * scale
  else i.low * scale < left && left < i.high * scale

/-- The value divided by `10 ^ k`, as a numerator and a denominator. -/
def onGrid (i : Interval) (k : Int) : Nat × Nat :=
  if 0 ≤ k then (i.value, i.den * Nat.pow 10 k.toNat) else (i.value * Nat.pow 10 (-k).toNat, i.den)

/-- The decimal of the grid `10 ^ k` that reads back as the number, the nearer one if both
neighbours do. -/
def onGrid? (i : Interval) (k : Int) : Option Scientific :=
  let (n, d) := i.onGrid k
  let below := n / d
  let nearest := Binary64.roundQuotient n d
  let other := if nearest = below then below + 1 else below
  if nearest ≠ 0 && i.contains nearest k then some ⟨nearest, k⟩
  else if other ≠ 0 && i.contains other k then some ⟨other, k⟩
  else none

end Interval

/-- The number of digits in front of the decimal point of `num / den`, zero or negative
for a fraction that starts with zeros. -/
def decimalPoint (num den : Nat) : Int :=
  if den ≤ num then ((Nat.toDigits 10 (num / den)).length : Int)
  else
    let rec search : Nat → Nat → Int → Int
      | 0, _, k => k
      | fuel + 1, n, k => if den ≤ n * 10 then k else search fuel (n * 10) (k - 1)
    search 400 num 0

/-- The shortest decimal of a number other than zero. -/
def Binary64.shortest (x : Binary64) : Scientific :=
  let i := x.interval
  let point := decimalPoint i.value i.den
  let grids := (List.range 17).map fun n => point - (n + 1 : Nat)
  match grids.findSome? i.onGrid? with
  | some s => s.strip 400
  | none => ⟨x.mantissa, x.exponent⟩

/-- The digits written out without an exponent, with at least one digit in front of the
point.  A whole number has no point. -/
def Scientific.positional (s : Scientific) : List Char :=
  let ds := s.digitChars
  if 0 ≤ s.exponent then ds ++ List.replicate s.exponent.toNat '0'
  else if 0 < s.point then
    ds.take s.point.toNat ++ '.' :: ds.drop s.point.toNat
  else ['0', '.'] ++ List.replicate (-s.point).toNat '0' ++ ds

/-- One digit in front of the point, then the power of ten with its sign. -/
def Scientific.exponential (s : Scientific) : List Char :=
  let mantissa := match s.digitChars with
    | d :: e :: ds => d :: '.' :: e :: ds
    | ds => ds
  let e := s.point - 1
  mantissa ++ 'e' :: (if e < 0 then '-' else '+') :: Nat.toDigits 10 e.natAbs

/-- A number in positional form: the shortest digits, a whole number without a point. -/
def Binary64.positional (x : Binary64) : List Char :=
  (if x.negative then ['-'] else []) ++ (if x.isZero then ['0'] else x.shortest.positional)

end JobSupervision.Decimal
