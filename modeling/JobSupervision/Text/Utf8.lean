/-
# UTF-8

Texts are written as bytes and read back from bytes that may hold anything.  Reading is a
machine that takes one byte at a time, so the same definition reads a whole text and a
stream.  A maximal part of the bytes that starts a sequence but does not finish it is one
undecodable unit, as is a byte that starts no sequence.

* `units` gives the characters and, as `none`, the undecodable units of some bytes;
* `decode?` accepts exactly the bytes without an undecodable unit;
* `decodeLossy` puts the replacement character in the place of each undecodable unit.
-/

namespace JobSupervision.Text.Utf8

/-- A sequence that has been started: the continuation bytes still owed, the least and the
greatest byte that may come next, and the value of the bits read so far. -/
structure Pending where
  /-- The continuation bytes still owed. -/
  owed : Nat
  /-- The least byte that may come next. -/
  low : UInt8
  /-- The greatest byte that may come next. -/
  high : UInt8
  /-- The bits read so far. -/
  value : Nat
deriving DecidableEq, Repr

/-- What a first byte does: it is a character of its own, it starts a sequence, or it can
start nothing. -/
inductive Lead where
  /-- A character of one byte. -/
  | single (c : Char)
  /-- The start of a longer sequence. -/
  | starts (pending : Pending)
  /-- A byte that starts no character. -/
  | none
deriving DecidableEq, Repr

/-- The reading of a first byte. -/
def lead (b : UInt8) : Lead :=
  let n := b.toNat
  if n < 0x80 then .single (Char.ofNat n)
  else if 0xC2 ≤ n && n ≤ 0xDF then .starts ⟨1, 0x80, 0xBF, n - 0xC0⟩
  else if n = 0xE0 then .starts ⟨2, 0xA0, 0xBF, 0⟩
  else if n = 0xED then .starts ⟨2, 0x80, 0x9F, n - 0xE0⟩
  else if 0xE1 ≤ n && n ≤ 0xEF then .starts ⟨2, 0x80, 0xBF, n - 0xE0⟩
  else if n = 0xF0 then .starts ⟨3, 0x90, 0xBF, 0⟩
  else if 0xF1 ≤ n && n ≤ 0xF3 then .starts ⟨3, 0x80, 0xBF, n - 0xF0⟩
  else if n = 0xF4 then .starts ⟨3, 0x80, 0x8F, 4⟩
  else .none

/-- The units a first byte gives at once, and the sequence it leaves open. -/
def start (b : UInt8) : List (Option Char) × Option Pending :=
  match lead b with
  | .single c => ([some c], none)
  | .starts pending => ([], some pending)
  | .none => ([none], none)

/-- One byte read in the middle of a sequence or between two of them. -/
def step (state : Option Pending) (b : UInt8) : List (Option Char) × Option Pending :=
  match state with
  | none => start b
  | some p =>
    if p.low ≤ b && b ≤ p.high then
      let value := p.value * 64 + (b.toNat - 0x80)
      if p.owed ≤ 1 then ([some (Char.ofNat value)], none)
      else ([], some ⟨p.owed - 1, 0x80, 0xBF, value⟩)
    else
      let (out, next) := start b
      (none :: out, next)

/-- The units of the bytes that follow a sequence left open.  A sequence that the end cuts
off is one undecodable unit. -/
def unitsFrom : Option Pending → List UInt8 → List (Option Char)
  | none, [] => []
  | some _, [] => [none]
  | state, b :: bs => (step state b).1 ++ unitsFrom (step state b).2 bs

/-- What has been read of a stream: the sequence left open and the units so far, newest
first. -/
structure Reading where
  /-- The sequence left open. -/
  pending : Option Pending
  /-- The units so far, newest first. -/
  read : List (Option Char)

/-- Reads one more byte. -/
def Reading.feed (r : Reading) (b : UInt8) : Reading :=
  let (out, next) := step r.pending b
  ⟨next, out.reverseAux r.read⟩

/-- The units of a stream that has ended. -/
def Reading.finish (r : Reading) : List (Option Char) :=
  (if r.pending.isSome then none :: r.read else r.read).reverse

/-- The characters of some bytes in order, with `none` for each undecodable unit. -/
def units (bytes : List UInt8) : List (Option Char) :=
  (bytes.foldl Reading.feed ⟨none, []⟩).finish

/-- Reading a stream piece by piece gives the units of the whole. -/
theorem finish_foldl_feed (bytes : List UInt8) (r : Reading) :
    (bytes.foldl Reading.feed r).finish = r.read.reverse ++ unitsFrom r.pending bytes := by
  induction bytes generalizing r with
  | nil =>
    obtain ⟨pending, read⟩ := r
    cases pending <;> simp [Reading.finish, unitsFrom]
  | cons b bs ih =>
    obtain ⟨pending, read⟩ := r
    simp [ih, Reading.feed, unitsFrom, List.reverseAux_eq]

theorem units_eq_unitsFrom (bytes : List UInt8) : units bytes = unitsFrom none bytes := by
  simp [units, finish_foldl_feed]

/-- The character shown in the place of an undecodable unit. -/
def replacement : Char := '\ufffd'

/-- The text of some bytes, with the replacement character for each undecodable unit. -/
def decodeLossy (bytes : List UInt8) : List Char :=
  (units bytes).map (·.getD replacement)

/-- The text of some bytes, if all of them can be decoded. -/
def decode? (bytes : List UInt8) : Option (List Char) := (units bytes).mapM id

/-- The bytes of a text. -/
def encode (text : List Char) : List UInt8 := text.flatMap String.utf8EncodeChar

theorem encode_append (s t : List Char) : encode (s ++ t) = encode s ++ encode t := by
  simp [encode]

end JobSupervision.Text.Utf8
