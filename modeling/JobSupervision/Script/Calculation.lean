/-
# Calculations in scripts

The value of an arithmetic expression: sums, differences, products, quotients, remainders and
brackets over numbers and variables.  A variable that holds no number counts as zero.
-/
import JobSupervision.Script.Formatting

namespace JobSupervision.Script

/-- A reader of a part of an expression: its value and the text behind it. -/
abbrev Reckoner := List Char → Option (Int × List Char)

/-- The expression without blanks. -/
def withoutBlanks (cs : List Char) : List Char := cs.filter fun c => !(c ∈ [' ', '\t', '\n'])

mutual

/-- A number, a variable, a signed factor or an expression in brackets. -/
def factor (env : List Char → List Char) : Nat → Reckoner
  | 0, _ => none
  | fuel + 1, cs =>
    match cs with
    | '(' :: rest => do
      let (n, rest) ← sum env fuel rest
      match rest with
      | ')' :: rest => some (n, rest)
      | _ => none
    | '-' :: rest => (factor env fuel rest).map fun r => (-r.1, r.2)
    | '+' :: rest => factor env fuel rest
    | '$' :: rest => factor env fuel rest
    | c :: _ =>
      if c.isDigit then
        some (leadingInt cs, cs.dropWhile Char.isDigit)
      else
        let name := cs.takeWhile fun c => c.isAlphanum || c = '_'
        if name.isEmpty then none else some (leadingInt (env name), cs.drop name.length)
    | [] => none

/-- A product. -/
def product (env : List Char → List Char) : Nat → Reckoner
  | 0, _ => none
  | fuel + 1, cs => do
    let (n, rest) ← factor env fuel cs
    factors env fuel n rest

/-- The further factors of a product. -/
def factors (env : List Char → List Char) : Nat → Int → Reckoner
  | 0, _, _ => none
  | fuel + 1, n, cs =>
    match cs with
    | '*' :: rest => do
      let (m, rest) ← factor env fuel rest
      factors env fuel (n * m) rest
    | '/' :: rest => do
      let (m, rest) ← factor env fuel rest
      if m = 0 then none else factors env fuel (Int.tdiv n m) rest
    | '%' :: rest => do
      let (m, rest) ← factor env fuel rest
      if m = 0 then none else factors env fuel (Int.tmod n m) rest
    | rest => some (n, rest)

/-- A sum. -/
def sum (env : List Char → List Char) : Nat → Reckoner
  | 0, _ => none
  | fuel + 1, cs => do
    let (n, rest) ← product env fuel cs
    summands env fuel n rest

/-- The further summands of a sum. -/
def summands (env : List Char → List Char) : Nat → Int → Reckoner
  | 0, _, _ => none
  | fuel + 1, n, cs =>
    match cs with
    | '+' :: rest => do
      let (m, rest) ← product env fuel rest
      summands env fuel (n + m) rest
    | '-' :: rest => do
      let (m, rest) ← product env fuel rest
      summands env fuel (n - m) rest
    | rest => some (n, rest)

end

/-- The value of an expression, if it has one. -/
def calculate? (env : List Char → List Char) (expression : List Char) : Option Int :=
  let cs := withoutBlanks expression
  match sum env (8 * cs.length + 8) cs with
  | some (n, []) => some n
  | _ => none

end JobSupervision.Script
