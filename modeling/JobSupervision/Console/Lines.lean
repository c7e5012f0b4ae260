/-
# Lines of a stream

The bytes that a program prints, cut into the lines that a console gets.  A line ends behind
a line feed, and the bytes behind the last one are a line of their own if there are any.
Every line is decoded by itself and loses the line feeds and carriage returns at its end.  Of the
lines that were handed on, a limited number of the latest ones is kept.
-/
import JobSupervision.Text.Utf8

namespace JobSupervision.Console

/-- The byte that ends a line. -/
def lineFeed : UInt8 := 10

/-- Puts a byte in front of some segments. -/
def cutAfter (b : UInt8) : List (List UInt8) → List (List UInt8)
  | [] => [[b]]
  | segment :: rest => if b = lineFeed then [b] :: segment :: rest else (b :: segment) :: rest

/-- Some bytes cut behind every line feed. -/
def segments (bytes : List UInt8) : List (List UInt8) := bytes.foldr cutAfter []

/-- Whether a segment has its line feed. -/
def isWhole (segment : List UInt8) : Bool := segment.getLast? = some lineFeed

/-- Whether a character ends a line. -/
def endsLine (c : Char) : Bool := c = '\n' || c = '\r'

/-- A text without the line ends at its end. -/
def trimEnd (text : List Char) : List Char := (text.reverse.dropWhile endsLine).reverse

/-- The line that a segment shows. -/
def lineOf (segment : List UInt8) : String :=
  String.ofList (trimEnd (Text.Utf8.decodeLossy segment))

/-- The lines of a stream that has ended. -/
def lines (bytes : List UInt8) : List String := (segments bytes).map lineOf

/-- The lines of a stream that goes on: those that have their line feed. -/
def wholeLines (bytes : List UInt8) : List String :=
  ((segments bytes).filter isWhole).map lineOf

/-- The lines that are kept after one more: when there are as many as the limit allows, the oldest
one makes room. -/
def keep (limit : Nat) (kept : List String) (line : String) : List String :=
  if limit = 0 then kept else (if kept.length = limit then kept.tail else kept) ++ [line]

/-- What is kept of lines that come one after the other. -/
def kept (limit : Nat) (lines : List String) : List String := lines.foldl (keep limit) []

/-- The last items of a list, as many as a limit allows. -/
def lastOf {α : Type} (limit : Nat) (items : List α) : List α := items.drop (items.length - limit)

theorem segments_cons (b : UInt8) (bytes : List UInt8) :
    segments (b :: bytes) = cutAfter b (segments bytes) := rfl

theorem kept_concat (limit : Nat) (lines : List String) (line : String) :
    kept limit (lines ++ [line]) = keep limit (kept limit lines) line := by
  rw [kept, List.foldl_append]
  rfl

theorem length_lastOf {α : Type} (limit : Nat) (items : List α) :
    (lastOf limit items).length = min limit items.length := by
  simp only [lastOf, List.length_drop]
  omega

end JobSupervision.Console
