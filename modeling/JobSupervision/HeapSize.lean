/-
# Heap sizes

The memory bound handed to a worker, such as `512m`.  A heap size is written as a number of
bytes with an optional unit of 2¹⁰, 2²⁰ or 2³⁰ bytes, and shown in the largest unit that
divides it.
-/
import JobSupervision.Json.Decoder
import JobSupervision.Text.Blank
import JobSupervision.Text.Inspect

namespace JobSupervision

/-- A number of bytes of memory. -/
structure HeapSize where
  /-- The number of bytes. -/
  bytes : UInt64
deriving DecidableEq, Repr

namespace HeapSize

/-- The number of bytes in `2¹⁰`, `2²⁰` and `2³⁰`. -/
def kibi : Nat := 1024

@[inherit_doc kibi] def mebi : Nat := 1024 * kibi

@[inherit_doc kibi] def gibi : Nat := 1024 * mebi

/-- The greatest number of bytes that can be written. -/
def greatest : Nat := 0xffffffffffffffff

/-- Whether a character is a letter of the Latin alphabet without marks. -/
def isLetter (c : Char) : Bool := ('a' ≤ c && c ≤ 'z') || ('A' ≤ c && c ≤ 'Z')

/-- The number of bytes in a unit, given by its letter in either case. -/
def unit? (c : Char) : Option Nat :=
  if c = 'k' ∨ c = 'K' then some kibi
  else if c = 'm' ∨ c = 'M' then some mebi
  else if c = 'g' ∨ c = 'G' then some gibi
  else none

/-- Whether a character is a decimal digit. -/
def isDigit (c : Char) : Bool := '0' ≤ c && c ≤ '9'

/-- The number that some decimal digits write. -/
def ofDigits (ds : List Char) : Nat := ds.foldl (fun n c => n * 10 + (c.toNat - 0x30)) 0

/-- A natural number in decimal digits, of which there is at least one, with an optional
plus sign in front. -/
def number? (cs : List Char) : Option Nat :=
  let digits := match cs with
    | '+' :: rest => rest
    | rest => rest
  if digits ≠ [] ∧ digits.all isDigit then some (ofDigits digits) else none

/-- A text split into a number and the number of bytes in its unit, which is one byte for a
text that does not end in a letter. -/
def split? (cs : List Char) : Option (List Char × Nat) :=
  match cs.getLast? with
  | none => some ([], 1)
  | some c => if isLetter c then (unit? c).map fun u => (cs.dropLast, u) else some (cs, 1)

/-- The heap size that a text writes; blanks around it do not count.  Nothing and more than
64 bits of bytes are no heap sizes. -/
def parse? (text : String) : Option HeapSize := do
  let (digits, unit) ← split? (Text.trim text.toList)
  let n ← number? digits
  if n ≤ greatest ∧ 0 < n * unit ∧ n * unit ≤ greatest then some ⟨.ofNat (n * unit)⟩ else none

/-- So many mebibytes. -/
def ofMebi (n : Nat) : HeapSize := ⟨.ofNat (n * mebi)⟩

/-- The digits of a number. -/
def digits (n : Nat) : List Char := Nat.toDigits 10 n

/-- The characters of a heap size in its largest unit. -/
def chars (h : HeapSize) : List Char :=
  let n := h.bytes.toNat
  if n % gibi = 0 then digits (n / gibi) ++ ['g']
  else if n % mebi = 0 then digits (n / mebi) ++ ['m']
  else if n % kibi = 0 then digits (n / kibi) ++ ['k']
  else digits n

/-- The text of a heap size. -/
def text (h : HeapSize) : String := String.ofList h.chars

/-- What is said about a text that is no heap size. -/
def refusal (text : String) : String :=
  "invalid heap size " ++ Text.quote text ++
    ": expected a positive number with an optional k/m/g suffix"

/-- The inspection text. -/
def inspect (h : HeapSize) : String := Text.inspectWrapped "HeapSize" (toString h.bytes.toNat)

/-- A heap size is encoded as its text. -/
def encode (h : HeapSize) : Json := .str h.text

/-- The heap size that a document holds. -/
def decode? (d : Json.Doc) : Option HeapSize := d.string?.bind parse?

end HeapSize

end JobSupervision
