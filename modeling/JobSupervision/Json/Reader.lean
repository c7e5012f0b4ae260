/-
# Reading JSON text

The grammar of JSON over a list of characters: each function takes what it reads off the
front and hands back the rest.  A text that is not JSON gives `none`; a well formed part
that stands for no value gives an unreadable document (`Doc.unreadable`).  Containers may be
nested in each other `maxDepth` times before they become unreadable.
-/
import JobSupervision.Json.Document
import JobSupervision.Json.Numeral
import JobSupervision.Text.Utf8

namespace JobSupervision.Json

/-- The blanks between the parts of a text. -/
def isSpace (c : Char) : Bool := c = ' ' || c = '\n' || c = '\t' || c = '\r'

/-- A text without the blanks at its front. -/
def skipSpace (cs : List Char) : List Char := cs.dropWhile isSpace

/-- The value of a hexadecimal digit of either case. -/
def hexValue? (c : Char) : Option Nat :=
  let n := c.toNat
  if 0x30 ≤ n ∧ n ≤ 0x39 then some (n - 0x30)
  else if 0x41 ≤ n ∧ n ≤ 0x46 then some (n - 0x37)
  else if 0x61 ≤ n ∧ n ≤ 0x66 then some (n - 0x57)
  else none

/-- The value of four hexadecimal digits. -/
def hexQuad? (a b c d : Char) : Option Nat := do
  let a ← hexValue? a
  let b ← hexValue? b
  let c ← hexValue? c
  let d ← hexValue? d
  return ((a * 16 + b) * 16 + c) * 16 + d

/-- A piece of a string: a character, or a 16-bit unit written as an escape. -/
inductive Piece where
  /-- A character. -/
  | char (c : Char)
  /-- An escaped unit. -/
  | unit (code : Nat)
deriving DecidableEq, Repr

/-- The character of a one-letter escape. -/
def letterEscape? (c : Char) : Option Char :=
  if c = '"' then some '"'
  else if c = '\\' then some '\\'
  else if c = '/' then some '/'
  else if c = 'b' then some '\x08'
  else if c = 'f' then some '\x0c'
  else if c = 'n' then some '\n'
  else if c = 'r' then some '\r'
  else if c = 't' then some '\t'
  else none

/-- The pieces of a string up to its closing quote. -/
def readPieces : List Char → Option (List Piece × List Char)
  | [] => none
  | '"' :: rest => some ([], rest)
  | '\\' :: 'u' :: a :: b :: c :: d :: rest =>
    match hexQuad? a b c d with
    | none => none
    | some code => (readPieces rest).map fun r => (.unit code :: r.1, r.2)
  | '\\' :: c :: rest =>
    match letterEscape? c with
    | none => none
    | some c => (readPieces rest).map fun r => (.char c :: r.1, r.2)
  | c :: rest =>
    if c.toNat < 0x20 || c = '\\' then none
    else (readPieces rest).map fun r => (.char c :: r.1, r.2)

/-- Whether a 16-bit unit is the first half of a surrogate pair. -/
def isHigh (code : Nat) : Bool := 0xD800 ≤ code && code ≤ 0xDBFF

/-- Whether a 16-bit unit is the second half of a surrogate pair. -/
def isLow (code : Nat) : Bool := 0xDC00 ≤ code && code ≤ 0xDFFF

/-- The text of some pieces, with surrogate pairs put together; half a pair is no text. -/
def joinPieces : List Piece → Option (List Char)
  | [] => some []
  | .char c :: rest => (joinPieces rest).map (c :: ·)
  | .unit h :: .unit l :: rest =>
    if isHigh h then
      if isLow l then
        (joinPieces rest).map (Char.ofNat (0x10000 + (h - 0xD800) * 0x400 + (l - 0xDC00)) :: ·)
      else none
    else if isLow h then none
    else (joinPieces (.unit l :: rest)).map (Char.ofNat h :: ·)
  | .unit h :: rest =>
    if isHigh h || isLow h then none else (joinPieces rest).map (Char.ofNat h :: ·)

/-- A string after its opening quote: the text, if the pieces are one, and the rest. -/
def readString (cs : List Char) : Option (Option String × List Char) :=
  (readPieces cs).map fun r => ((joinPieces r.1).map String.ofList, r.2)

/-- Whether a character is a decimal digit. -/
def isDigit (c : Char) : Bool := '0' ≤ c && c ≤ '9'

/-- The decimal digits at the front of a text, and the rest. -/
def readDigits (cs : List Char) : List Nat × List Char :=
  ((cs.takeWhile isDigit).map fun c => c.toNat - 0x30, cs.dropWhile isDigit)

/-- The number that a list of decimal digits writes. -/
def ofDigits (ds : List Nat) : Nat := ds.foldl (fun n d => n * 10 + d) 0

/-- The digits of a whole number: one zero alone, or digits that do not start with one. -/
def readWhole (cs : List Char) : Option (List Nat × List Char) :=
  match readDigits cs with
  | ([], _) => none
  | (0 :: _ :: _, _) => none
  | (ds, rest) => some (ds, rest)

/-- A point and the digits behind it, if a point comes next. -/
def readFraction : List Char → Option (Option (List Nat) × List Char)
  | '.' :: rest =>
    match readDigits rest with
    | ([], _) => none
    | (ds, rest) => some (some ds, rest)
  | cs => some (none, cs)

/-- The power of ten, if one comes next. -/
def readPower : List Char → Option (Option Int × List Char)
  | c :: rest =>
    if c = 'e' || c = 'E' then
      let (negative, rest) := match rest with
        | '-' :: rest => (true, rest)
        | '+' :: rest => (false, rest)
        | rest => (false, rest)
      match readDigits rest with
      | ([], _) => none
      | (ds, rest) =>
        some (some (if negative then -(ofDigits ds : Int) else ofDigits ds), rest)
    else some (none, c :: rest)
  | [] => some (none, [])

/-- The parts of a number after its sign. -/
def readNumeral (negative : Bool) (cs : List Char) : Option (Numeral × List Char) := do
  let (whole, cs) ← readWhole cs
  let (fraction, cs) ← readFraction cs
  let (power, cs) ← readPower cs
  return (⟨negative, whole, fraction, power⟩, cs)

/-- A numeral as a document. -/
def Numeral.toDoc (n : Numeral) : Doc :=
  match n.value? with
  | some v => .num v
  | none => .unreadable

/-- A container as a document, unless it is nested too deeply. -/
def container (depth : Nat) (d : Doc) : Doc := if depth = 0 then .unreadable else d

/-- A literal word at the front of a text. -/
def readWord (word : List Char) (d : Doc) (cs : List Char) : Option (Doc × List Char) :=
  if word.isPrefixOf cs then some (d, cs.drop word.length) else none

mutual

/-- One value at the front of a text; `depth` containers may still be entered.  The fuel
bounds the values and separators read, so the length of the text is enough. -/
def readValue : (fuel depth : Nat) → List Char → Option (Doc × List Char)
  | 0, _, _ => none
  | fuel + 1, depth, cs =>
    match skipSpace cs with
    | [] => none
    | '"' :: rest => (readString rest).map fun r => (r.1.elim .unreadable .str, r.2)
    | '[' :: rest =>
      match skipSpace rest with
      | ']' :: rest => some (container depth (.arr []), rest)
      | rest => (readItems fuel (depth - 1) rest).map fun r => (container depth (.arr r.1), r.2)
    | '\x7b' :: rest =>
      match skipSpace rest with
      | '\x7d' :: rest => some (container depth (.obj []), rest)
      | rest => (readMembers fuel (depth - 1) rest).map fun r => (container depth (.obj r.1), r.2)
    | '-' :: rest => (readNumeral true rest).map fun r => (r.1.toDoc, r.2)
    | c :: rest =>
      if c = 'n' then readWord ['u', 'l', 'l'] .null rest
      else if c = 't' then readWord ['r', 'u', 'e'] (.bool true) rest
      else if c = 'f' then readWord ['a', 'l', 's', 'e'] (.bool false) rest
      else if isDigit c then (readNumeral false (c :: rest)).map fun r => (r.1.toDoc, r.2)
      else none

/-- The items of a list up to its closing bracket, of which there is at least one. -/
def readItems : (fuel depth : Nat) → List Char → Option (List Doc × List Char)
  | 0, _, _ => none
  | fuel + 1, depth, cs =>
    match readValue fuel depth cs with
    | none => none
    | some (d, rest) =>
      match skipSpace rest with
      | ',' :: rest => (readItems fuel depth rest).map fun r => (d :: r.1, r.2)
      | ']' :: rest => some ([d], rest)
      | _ => none

/-- The members of an object up to its closing brace, of which there is at least one. -/
def readMembers : (fuel depth : Nat) → List Char → Option (List (Option String × Doc) × List Char)
  | 0, _, _ => none
  | fuel + 1, depth, cs =>
    match skipSpace cs with
    | '"' :: rest =>
      match readString rest with
      | none => none
      | some (key, rest) =>
        match skipSpace rest with
        | ':' :: rest =>
          match readValue fuel depth rest with
          | none => none
          | some (d, rest) =>
            match skipSpace rest with
            | ',' :: rest => (readMembers fuel depth rest).map fun r => ((key, d) :: r.1, r.2)
            | '\x7d' :: rest => some ([(key, d)], rest)
            | _ => none
        | _ => none
    | _ => none

end

/-- How many containers may be nested in each other. -/
def maxDepth : Nat := 127

/-- The document of a text: one value with blanks around it. -/
def Doc.parse? (cs : List Char) : Option Doc :=
  match readValue (cs.length + 1) maxDepth cs with
  | some (d, rest) => if (skipSpace rest).isEmpty then some d else none
  | none => none

/-- Units of bytes as characters.  An undecodable unit becomes the escape of half a
surrogate pair: outside a string that is no JSON, and inside it makes the string
unreadable.  Behind a backslash that starts an escape it becomes an escape that does not
exist. -/
def markUndecodable : (escaping : Bool) → List (Option Char) → List Char
  | _, [] => []
  | escaping, none :: rest =>
    (if escaping then ['!'] else ['\\', 'u', 'd', '8', '0', '0']) ++ markUndecodable false rest
  | escaping, some c :: rest => c :: markUndecodable (c = '\\' && !escaping) rest

/-- The document of a text given as bytes. -/
def Doc.parseBytes? (bytes : List UInt8) : Option Doc :=
  Doc.parse? (markUndecodable false (Text.Utf8.units bytes))

end JobSupervision.Json
