/-
# Scripts

The syntax of small shell scripts: simple commands with assignments, redirections and
here-documents, pipelines, lists, conditionals, selections and loops.  A word is made of pieces,
some of which stand for values that are only known when the script runs.
-/

namespace JobSupervision.Script

mutual

/-- A value that is known when the script runs. -/
inductive Value where
  /-- A variable. -/
  | named (name : List Char)
  /-- An argument by its number; the one of number zero is the name of the script. -/
  | argument (number : Nat)
  /-- All arguments. -/
  | arguments
  /-- The number of arguments. -/
  | argumentCount
  /-- The status of the last command. -/
  | status
  /-- The number of the process. -/
  | processNumber
  /-- What some commands print. -/
  | printed (commands : Command)
  /-- The result of a calculation. -/
  | sum (expression : List Char)

/-- A piece of a word. -/
inductive Piece where
  /-- Characters that stand for themselves. -/
  | literal (text : List Char)
  /-- A value.  Only one that is not quoted is split at blanks. -/
  | value (value : Value) (quoted : Bool)

/-- Where a stream of a command goes or comes from. -/
inductive Redirection where
  /-- A stream goes into a file, in place of what it holds or behind it. -/
  | output (stream : Nat) (target : List Piece) (behind : Bool)
  /-- A stream goes where another one goes. -/
  | same (stream target : Nat)
  /-- The input comes from a file. -/
  | input (source : List Piece)
  /-- The input is a text of the script. -/
  | here (text : List Piece)
  /-- A stream goes nowhere. -/
  | closed (stream : Nat)

/-- A command. -/
inductive Command where
  /-- No command. -/
  | nothing
  /-- Assignments and the words of a command, with the number of line ends behind its start. -/
  | simple (linesBehind : Nat) (assignments : List (List Char × List Piece))
    (words : List (List Piece))
  /-- A command with redirections, in their order, and the number of line ends behind its
  start. -/
  | redirected (linesBehind : Nat) (command : Command) (redirections : List Redirection)
  /-- A command and then another one. -/
  | sequence (first second : Command)
  /-- A command and, depending on whether it succeeds, another one. -/
  | depending (onSuccess : Bool) (first second : Command)
  /-- A command whose output is the input of another one. -/
  | pipe (first second : Command)
  /-- A command whose success counts as failure and the other way round. -/
  | negated (command : Command)
  /-- A command in a shell of its own. -/
  | inner (command : Command)
  /-- One of two commands, depending on whether a condition succeeds. -/
  | choice (condition yes no : Command)
  /-- A body that is repeated as long as a condition succeeds, or fails. -/
  | loop (whileSuccess : Bool) (condition body : Command)
  /-- A body that is done for each of some words. -/
  | each (name : List Char) (words : List (List Piece)) (body : Command)
  /-- The first of some commands that has a pattern which fits a word. -/
  | select (subject : List Piece) (branches : List (List (List Piece) × Command))
  /-- A command that goes on beside the following ones. -/
  | beside (command : Command)

end

/-- A word: pieces side by side. -/
abbrev Word := List Piece

end JobSupervision.Script
