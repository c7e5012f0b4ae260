/-
# Programs

What a program does when it is started: the bytes it writes to its two streams and when, how
and when it ends, and the files it leaves.  A program is a function from its command line and
the files it finds, its working directory among them, to such a run.  The file work of a run
counts as done when the program starts; its other doings have their times.
-/
import JobSupervision.Console.Lines
import JobSupervision.FileSystem

namespace JobSupervision

/-- How a program ends. -/
inductive ProgramEnd where
  /-- It ends by itself with a code. -/
  | exited (code : Nat)
  /-- A signal ends it. -/
  | signalled (number : Nat)
deriving DecidableEq, Repr

namespace ProgramEnd

/-- The names of signals by their numbers. -/
def signalNames : List (Nat × String) :=
  [(1, "HUP"), (2, "INT"), (3, "QUIT"), (4, "ILL"), (5, "TRAP"), (6, "ABRT"), (7, "BUS"),
    (8, "FPE"), (9, "KILL"), (10, "USR1"), (11, "SEGV"), (12, "USR2"), (13, "PIPE"), (14, "ALRM"),
    (15, "TERM"), (16, "STKFLT"), (17, "CHLD"), (18, "CONT"), (19, "STOP"), (20, "TSTP"),
    (21, "TTIN"), (22, "TTOU"), (23, "URG"), (24, "XCPU"), (25, "XFSZ"), (26, "VTALRM"),
    (27, "PROF"), (28, "WINCH"), (29, "IO"), (30, "PWR"), (31, "SYS")]

/-- The text of an end. -/
def text : ProgramEnd → String
  | .exited code => "exit status: " ++ toString code
  | .signalled number =>
    "signal: " ++ toString number ++
      match signalNames.lookup number with
      | some name => " (SIG" ++ name ++ ")"
      | none => ""

/-- The code of a program that ended by itself. -/
def code? : ProgramEnd → Option Int
  | .exited code => some code
  | .signalled _ => none

/-- The code that a program gives with a number: only its last eight bits count. -/
def ofCode (code : Int) : ProgramEnd := .exited (code % 256).toNat

end ProgramEnd

/-- Some bytes with the time at which they are written, in milliseconds after the start. -/
structure Chunk where
  /-- The time. -/
  millis : Nat
  /-- The bytes. -/
  bytes : List UInt8
deriving DecidableEq, Repr

/-- What a program does from its start on. -/
structure ProgramRun where
  /-- What it writes to its output, oldest first. -/
  printed : List Chunk
  /-- What it writes to its error stream, oldest first. -/
  complained : List Chunk
  /-- When and how it ends; one that goes on for ever does not. -/
  ending : Option (Nat × ProgramEnd)
  /-- When everything it has started besides itself has let go of its streams; something that
  goes on for ever may hold them for ever. -/
  letGo : Option Nat := some 0
  /-- The files it leaves. -/
  files : FileSystem

/-- What can be started. -/
abbrev Program := List String → FileSystem → ProgramRun

namespace Chunk

/-- The bytes that are written up to a time. -/
def upTo (millis : Nat) (chunks : List Chunk) : List UInt8 :=
  (chunks.filter (·.millis ≤ millis)).flatMap (·.bytes)

/-- The lines that are whole at some time, each with the first such time. -/
def wholeLines (pending : List UInt8) : List Chunk → List (Nat × String)
  | [] => []
  | c :: rest =>
    let cut := Console.segments (pending ++ c.bytes)
    let whole := cut.filter Console.isWhole
    let left := (cut.filter fun s => !Console.isWhole s).flatten
    whole.map (fun s => (c.millis, Console.lineOf s)) ++ wholeLines left rest

end Chunk

end JobSupervision
