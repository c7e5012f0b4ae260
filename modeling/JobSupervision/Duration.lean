/-
# Durations

A length of time in nanoseconds, shown in the largest unit that it fills, with as many
digits behind the point as it needs.
-/

namespace JobSupervision

/-- A length of time. -/
structure Duration where
  /-- The number of nanoseconds. -/
  nanos : Nat
deriving DecidableEq, Repr

namespace Duration

/-- A duration of so many milliseconds. -/
def ofMillis (millis : Nat) : Duration := ⟨millis * 1000000⟩

/-- A fraction below one in so many digits, without the zeros at its end. -/
def fractionDigits (places n : Nat) : List Char :=
  let ds := Nat.toDigits 10 n
  ((List.replicate (places - ds.length) '0' ++ ds).reverse.dropWhile (· = '0')).reverse

/-- So many nanoseconds in a unit of `10 ^ places` nanoseconds. -/
def inUnit (places nanos : Nat) (unit : String) : String :=
  let fraction := fractionDigits places (nanos % Nat.pow 10 places)
  let whole := toString (nanos / Nat.pow 10 places)
  if fraction.isEmpty then whole ++ unit else whole ++ "." ++ String.ofList fraction ++ unit

/-- The inspection text. -/
def inspect (d : Duration) : String :=
  if 1000000000 ≤ d.nanos then inUnit 9 d.nanos "s"
  else if 1000000 ≤ d.nanos then inUnit 6 d.nanos "ms"
  else if 1000 ≤ d.nanos then inUnit 3 d.nanos "µs"
  else toString d.nanos ++ "ns"

end Duration

end JobSupervision
