/-
# Compact JSON text

The text of a value without any blanks: members in the order they stand in, characters as
they are except the quote, the backslash and the controls below the space, integers by
their digits and other numbers by their shortest digits.
-/
import JobSupervision.Json.Basic
import JobSupervision.Decimal.Shortest

namespace JobSupervision.Json

open Decimal (Binary64)

/-- A lower-case hexadecimal digit. -/
def hexDigit (n : Nat) : Char := Nat.digitChar n

/-- A character inside a JSON string. -/
def escapeChar (c : Char) : List Char :=
  if c = '"' then ['\\', '"']
  else if c = '\\' then ['\\', '\\']
  else if c = '\x08' then ['\\', 'b']
  else if c = '\t' then ['\\', 't']
  else if c = '\n' then ['\\', 'n']
  else if c = '\x0c' then ['\\', 'f']
  else if c = '\r' then ['\\', 'r']
  else if c.toNat < 0x20 then
    ['\\', 'u', '0', '0', hexDigit (c.toNat / 16), hexDigit (c.toNat % 16)]
  else [c]

/-- A JSON string. -/
def renderString (s : String) : List Char := '"' :: s.toList.flatMap escapeChar ++ ['"']

/-- The digits of an integer, after a minus sign if it is negative. -/
def renderInt (n : Int) : List Char :=
  if n < 0 then '-' :: Nat.toDigits 10 n.natAbs else Nat.toDigits 10 n.natAbs

/-- A floating point number: positional from `10⁻⁵` up to `10¹⁶`, with a power of ten
outside, and always with a point or an exponent, so that it reads back as what it is. -/
def renderFloat (x : Binary64) : List Char :=
  let sign := if x.negative then ['-'] else []
  if x.isZero then sign ++ ['0', '.', '0']
  else
    let s := x.shortest
    sign ++
      (if -5 < s.point ∧ s.point ≤ 16 then
        s.positional ++ (if 0 ≤ s.exponent then ['.', '0'] else [])
      else s.exponential)

/-- A number. -/
def Number.render : Number → List Char
  | .int n => renderInt n
  | .float x => renderFloat x

mutual

/-- The compact text of a value. -/
def render : Json → List Char
  | .null => ['n', 'u', 'l', 'l']
  | .bool true => ['t', 'r', 'u', 'e']
  | .bool false => ['f', 'a', 'l', 's', 'e']
  | .num n => n.render
  | .str s => renderString s
  | .arr items => '[' :: (renderItems items ++ [']'])
  | .obj members => '\x7b' :: (renderMembers members ++ ['\x7d'])

/-- Items with a comma between each two. -/
def renderItems : List Json → List Char
  | [] => []
  | [j] => render j
  | j :: k :: rest => render j ++ ',' :: renderItems (k :: rest)

/-- Members with a comma between each two. -/
def renderMembers : List (String × Json) → List Char
  | [] => []
  | [(k, j)] => renderString k ++ ':' :: render j
  | (k, j) :: m :: rest => renderString k ++ ':' :: (render j ++ ',' :: renderMembers (m :: rest))

end

/-- The compact text of a value as a string. -/
def text (j : Json) : String := String.ofList j.render

end JobSupervision.Json
