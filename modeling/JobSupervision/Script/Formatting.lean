/-
# Formatted printing in scripts

The backslash sequences of `echo` and `printf`, and the formats of `printf`.  What is printed
is bytes: a sequence may stand for a byte that is no character by itself.
-/
import JobSupervision.Text.Utf8

namespace JobSupervision.Script

/-- The value of an octal digit. -/
def octal? (c : Char) : Option Nat :=
  if '0' ≤ c ∧ c ≤ '7' then some (c.toNat - 48) else none

/-- The number of at most some octal digits, and the text behind them. -/
def octalNumber : Nat → Nat → List Char → Nat × List Char
  | fuel + 1, n, c :: rest =>
    match octal? c with
    | some d => octalNumber fuel (n * 8 + d) rest
    | none => (n, c :: rest)
  | _, n, cs => (n, cs)

/-- The byte that a letter behind a backslash stands for. -/
def escapeLetter? (c : Char) : Option UInt8 :=
  [('a', 7), ('b', 8), ('f', 12), ('n', 10), ('r', 13), ('t', 9), ('v', 11), ('\\', 92)].lookup c

/-- What a backslash sequence stands for. -/
inductive Escape where
  /-- A byte, and the text behind it. -/
  | byte (value : UInt8) (rest : List Char)
  /-- The end of all printing. -/
  | stop
  /-- Nothing: the backslash stands for itself. -/
  | none

/-- The sequence behind a backslash in a format: a letter, or up to three octal digits. -/
def formatEscape : List Char → Escape
  | [] => .none
  | c :: rest =>
    match escapeLetter? c, octal? c with
    | some b, _ => .byte b rest
    | _, some _ =>
      let (n, rest) := octalNumber 3 0 (c :: rest)
      .byte (UInt8.ofNat n) rest
    | _, _ => .none

/-- The sequence behind a backslash in a text: as in a format, but octal digits stand behind a
zero, and one sequence ends all printing. -/
def textEscape : List Char → Escape
  | [] => .none
  | 'c' :: _ => .stop
  | '0' :: rest =>
    let (n, rest) := octalNumber 3 0 rest
    .byte (UInt8.ofNat n) rest
  | c :: rest =>
    match escapeLetter? c with
    | some b => .byte b rest
    | Option.none => .none

/-- The bytes of a text with backslash sequences, and whether printing goes on behind it. -/
def unescape : Nat → List Char → List UInt8 × Bool
  | 0, cs => (Text.Utf8.encode cs, true)
  | _, [] => ([], true)
  | fuel + 1, '\\' :: cs =>
    match textEscape cs with
    | .byte b rest =>
      let (bytes, more) := unescape fuel rest
      (b :: bytes, more)
    | .stop => ([], false)
    | .none =>
      let (bytes, more) := unescape fuel cs
      (92 :: bytes, more)
  | fuel + 1, c :: cs =>
    let (bytes, more) := unescape fuel cs
    (Text.Utf8.encode [c] ++ bytes, more)

/-- The number that a text starts with. -/
def leadingInt (cs : List Char) : Int :=
  let digits (cs : List Char) : Nat :=
    (cs.takeWhile Char.isDigit).foldl (fun n c => n * 10 + (c.toNat - 48)) 0
  match cs with
  | '-' :: rest => -(digits rest : Int)
  | '+' :: rest => digits rest
  | rest => digits rest

/-- Some bytes brought to a width with blanks, in front or behind. -/
def pad (width : Nat) (behind : Bool) (filler : UInt8) (bytes : List UInt8) : List UInt8 :=
  let fill := List.replicate (width - bytes.length) filler
  if behind then bytes ++ fill else fill ++ bytes

/-- One directive of a format: its flags, its width and its letter, and the text behind it. -/
def directive (cs : List Char) : List Char × Nat × Option (Char × List Char) :=
  let flags := cs.takeWhile fun c => c ∈ ['-', '0', '+', ' ', '#']
  let rest := cs.drop flags.length
  let digits := rest.takeWhile Char.isDigit
  (flags, digits.foldl (fun n c => n * 10 + (c.toNat - 48)) 0,
    match rest.drop digits.length with
    | [] => none
    | c :: rest => some (c, rest))

/-- What a directive prints of an argument, and whether printing goes on behind it. -/
def printArgument (flags : List Char) (width : Nat) (letter : Char) (argument : List Char) :
    List UInt8 × Bool :=
  let behind := flags.contains '-'
  let zeros := flags.contains '0' && !behind
  match letter with
  | 'b' =>
    let (bytes, more) := unescape (argument.length + 1) argument
    (pad width behind 32 bytes, more)
  | 'd' | 'i' | 'u' =>
    let text := Text.Utf8.encode (toString (leadingInt argument)).toList
    match zeros, text with
    | true, 45 :: digits => (45 :: pad (width - 1) false 48 digits, true)
    | true, digits => (pad width false 48 digits, true)
    | false, text => (pad width behind 32 text, true)
  | 'c' => (pad width behind 32 (Text.Utf8.encode (argument.take 1)), true)
  | _ => (pad width behind 32 (Text.Utf8.encode argument), true)

/-- One pass over a format: the bytes, the arguments that are left, and whether printing goes
on behind it. -/
def formatOnce : Nat → List Char → List (List Char) → List UInt8 × List (List Char) × Bool
  | 0, _, arguments => ([], arguments, false)
  | _, [], arguments => ([], arguments, true)
  | fuel + 1, '\\' :: cs, arguments =>
    match formatEscape cs with
    | .byte b rest =>
      let (bytes, left) := formatOnce fuel rest arguments
      (b :: bytes, left)
    | _ =>
      let (bytes, left) := formatOnce fuel cs arguments
      (92 :: bytes, left)
  | fuel + 1, '%' :: '%' :: cs, arguments =>
    let (bytes, left) := formatOnce fuel cs arguments
    (37 :: bytes, left)
  | fuel + 1, '%' :: cs, arguments =>
    match directive cs with
    | (flags, width, some (letter, rest)) =>
      let (shown, goesOn) := printArgument flags width letter (arguments.head?.getD [])
      if goesOn then
        let (bytes, left) := formatOnce fuel rest arguments.tail
        (shown ++ bytes, left)
      else (shown, [], false)
    | (_, _, none) => (37 :: Text.Utf8.encode cs, arguments, true)
  | fuel + 1, c :: cs, arguments =>
    let (bytes, left) := formatOnce fuel cs arguments
    (Text.Utf8.encode [c] ++ bytes, left)

/-- The format over and over until the arguments are used up. -/
def formatAll (format : List Char) : Nat → List (List Char) → List UInt8
  | 0, _ => []
  | fuel + 1, arguments =>
    let (bytes, left, goesOn) := formatOnce (format.length + 1) format arguments
    if !goesOn || left.isEmpty || left.length = arguments.length then bytes
    else bytes ++ formatAll format fuel left

/-- What a format prints of some arguments. -/
def format (text : List Char) (arguments : List (List Char)) : List UInt8 :=
  formatAll text (arguments.length + 1) arguments

end JobSupervision.Script
