/-
# Numerals

The text of a JSON number and the number it stands for.  A numeral without fraction and
exponent that fits into 64 bits is that integer.  Every other numeral is a floating point
number: as many leading digits as fit into 64 bits are taken, the rest only shift the
decimal point, and the digits are scaled by one power of ten.
-/
import JobSupervision.Json.Basic

namespace JobSupervision.Json

open Decimal (Binary64)

/-- The parts of a written number. -/
structure Numeral where
  /-- Whether a minus sign stands in front. -/
  negative : Bool
  /-- The digits in front of the point. -/
  whole : List Nat
  /-- The digits behind the point, if there is one. -/
  fraction : Option (List Nat)
  /-- The power of ten, if one is written. -/
  power : Option Int
deriving DecidableEq, Repr

/-- The greatest 64-bit natural number. -/
def maxWord : Nat := 0xffffffffffffffff

/-- The leading digits that still fit into 64 bits after those read before, as a number,
and the digits that do not. -/
def takeWord (value : Nat) : List Nat → Nat × List Nat
  | [] => (value, [])
  | d :: ds => if maxWord < value * 10 + d then (value, d :: ds) else takeWord (value * 10 + d) ds

/-- Scales a number by `10 ^ k`.  Powers beyond the greatest one of the format are applied
in steps of `10 ^ 308` when they divide, and are out of range when they multiply. -/
def scaleByTen (x : Binary64) (k : Int) : Option Binary64 :=
  if x.isZero then some x
  else if 0 ≤ k then
    if 308 < k then none else (Binary64.powTen k.toNat).bind x.mul
  else divide 64 x (-k).toNat
where
  /-- Division by `10 ^ k` in steps; each step takes at least 308 from `k`. -/
  divide : Nat → Binary64 → Nat → Option Binary64
    | 0, x, _ => some (Binary64.zero x.negative)
    | fuel + 1, x, k =>
      if x.isZero then some x
      else if k ≤ 308 then (Binary64.powTen k).bind x.div
      else
        match (Binary64.powTen 308).bind x.div with
        | some y => divide fuel y (k - 308)
        | none => none

/-- The greatest exponent that is computed with; a greater one is out of range or gives
zero. -/
def maxPower : Int := 0x7fffffff

namespace Numeral

/-- The floating point number with the given significand and power of ten. -/
def toFloat (negative : Bool) (significand : Nat) (power : Int) : Option Number :=
  ((Binary64.ofNat significand).bind (scaleByTen · power)).map fun x =>
    .float { x with negative := negative }

/-- The number a numeral stands for, or `none` if it is out of range. -/
def value? (n : Numeral) : Option Number :=
  let (head, rest) := takeWord 0 n.whole
  match n.fraction, n.power with
  | none, none =>
    if !rest.isEmpty then toFloat n.negative head rest.length
    else if !n.negative then some (.int head)
    else if head = 0 ∨ 0x8000000000000000 < head then toFloat true head 0
    else some (.int (-(head : Int)))
  | fraction, power =>
    let digits := fraction.getD []
    let (significand, dropped) := takeWord head digits
    let shift : Int := (rest.length : Int) - ((digits.length - dropped.length : Nat) : Int)
    match power with
    | none => toFloat n.negative significand shift
    | some e =>
      if maxPower < e then
        if significand = 0 then some (.float (Binary64.zero n.negative)) else none
      else if e < -maxPower then some (.float (Binary64.zero n.negative))
      else toFloat n.negative significand (shift + e)

end Numeral

end JobSupervision.Json
