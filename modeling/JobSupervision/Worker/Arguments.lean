/-
# Arguments of a worker

How the command line of a worker is read.  Options take one value each, in the next argument
or behind an equals sign, and may be given once; everything behind a lone `--` is handed
through.  An option is settled when the next one begins, so of two faults on one command line
the one that is settled first is reported.
-/
import JobSupervision.HeapSize
import JobSupervision.Path

namespace JobSupervision

/-- What a worker is told when it starts. -/
structure WorkerArguments where
  /-- The file that holds the payload. -/
  payload : Path
  /-- The file that the result record goes to. -/
  result : Path
  /-- The joined classpath. -/
  classpath : Option String
  /-- The memory the worker starts with. -/
  heapInitial : Option HeapSize
  /-- The memory the worker may use. -/
  heapMax : Option HeapSize
  /-- The arguments handed through. -/
  extra : List String
deriving DecidableEq, Repr

/-- Why a command line is not accepted. -/
inductive ArgumentError where
  /-- Help was asked for. -/
  | displayHelp
  /-- An argument has no meaning. -/
  | unknownArgument
  /-- An option has no value. -/
  | invalidValue
  /-- A flag has a value. -/
  | tooManyValues
  /-- An option is given twice. -/
  | argumentConflict
  /-- A value does not have the form that its option needs. -/
  | valueValidation
  /-- A required option is missing. -/
  | missingRequiredArgument
deriving DecidableEq, Repr

namespace ArgumentError

/-- The name of an error. -/
def name : ArgumentError → String
  | .displayHelp => "DisplayHelp"
  | .unknownArgument => "UnknownArgument"
  | .invalidValue => "InvalidValue"
  | .tooManyValues => "TooManyValues"
  | .argumentConflict => "ArgumentConflict"
  | .valueValidation => "ValueValidation"
  | .missingRequiredArgument => "MissingRequiredArgument"

/-- The exit code of a worker whose command line is not accepted. -/
def exitCode : ArgumentError → Nat
  | .displayHelp => 0
  | _ => 2

end ArgumentError

namespace WorkerArguments

/-- An option with a value. -/
inductive OptionName where
  /-- The file that holds the payload. -/
  | payload
  /-- The file that the result record goes to. -/
  | result
  /-- The joined classpath. -/
  | classpath
  /-- The memory the worker starts with. -/
  | heapInitial
  /-- The memory the worker may use. -/
  | heapMax
deriving DecidableEq, Repr

/-- The option of a name. -/
def OptionName.ofText? (name : List Char) : Option OptionName :=
  if name = "payload".toList then some .payload
  else if name = "result".toList then some .result
  else if name = "classpath".toList then some .classpath
  else if name = "heap-initial".toList then some .heapInitial
  else if name = "heap-max".toList then some .heapMax
  else none

/-- The options settled so far. -/
structure Draft where
  /-- The file that holds the payload. -/
  payload : Option Path := none
  /-- The file that the result record goes to. -/
  result : Option Path := none
  /-- The joined classpath. -/
  classpath : Option String := none
  /-- The memory the worker starts with. -/
  heapInitial : Option HeapSize := none
  /-- The memory the worker may use. -/
  heapMax : Option HeapSize := none

/-- A path given as a value, which may not be empty. -/
def pathValue (value : String) : Except ArgumentError Path :=
  if value.isEmpty then .error .invalidValue else .ok ⟨value⟩

/-- A heap size given as a value. -/
def heapValue (value : String) : Except ArgumentError HeapSize :=
  match HeapSize.parse? value with
  | some h => .ok h
  | none => .error .valueValidation

/-- Whether an option is settled already. -/
def Draft.has (d : Draft) : OptionName → Bool
  | .payload => d.payload.isSome
  | .result => d.result.isSome
  | .classpath => d.classpath.isSome
  | .heapInitial => d.heapInitial.isSome
  | .heapMax => d.heapMax.isSome

/-- Settles an option with its value. -/
def Draft.settle (d : Draft) (name : OptionName) (value : Option String) :
    Except ArgumentError Draft :=
  match value with
  | none => .error .invalidValue
  | some v =>
    if d.has name then .error .argumentConflict
    else
      match name with
      | .payload => (pathValue v).map fun p => { d with payload := some p }
      | .result => (pathValue v).map fun p => { d with result := some p }
      | .classpath => .ok { d with classpath := some v }
      | .heapInitial => (heapValue v).map fun h => { d with heapInitial := some h }
      | .heapMax => (heapValue v).map fun h => { d with heapMax := some h }

/-- An option that was begun, with its value if it has one by now. -/
abbrev Begun := Option (OptionName × Option String)

/-- Settles an option that was begun. -/
def Draft.settleBegun (d : Draft) : Begun → Except ArgumentError Draft
  | none => .ok d
  | some (name, value) => d.settle name value

/-- What one argument is. -/
inductive Argument where
  /-- The lone `--`. -/
  | divider
  /-- An option name, with the text behind its equals sign if there is one. -/
  | long (name : List Char) (value : Option String)
  /-- Letters behind a single dash. -/
  | short (letters : List Char)
  /-- Anything else. -/
  | plain (text : String)

/-- The kind of an argument. -/
def Argument.of (text : String) : Argument :=
  match text.toList with
  | ['-', '-'] => .divider
  | '-' :: '-' :: cs =>
    match cs.dropWhile (· ≠ '=') with
    | [] => .long cs none
    | _ :: value => .long (cs.takeWhile (· ≠ '=')) (some (String.ofList value))
  | '-' :: c :: cs => .short (c :: cs)
  | _ => .plain text

/-- The arguments, if the required options are settled. -/
def Draft.finish (d : Draft) (extra : List String) : Except ArgumentError WorkerArguments :=
  match d.payload, d.result with
  | some payload, some result =>
    .ok ⟨payload, result, d.classpath, d.heapInitial, d.heapMax, extra⟩
  | _, _ => .error .missingRequiredArgument

/-- Reads the arguments behind the name of the program. -/
def scan : Draft → Begun → List String → Except ArgumentError WorkerArguments
  | d, begun, [] => do (← d.settleBegun begun).finish []
  | d, begun, arg :: rest =>
    match Argument.of arg with
    | .divider => do (← d.settleBegun begun).finish rest
    | .long name value =>
      if name = "help".toList then
        match value with
        | some _ => .error .tooManyValues
        | none => do
          let _ ← d.settleBegun begun
          .error .displayHelp
      else
        match OptionName.ofText? name with
        | none => .error .unknownArgument
        | some name => do
          let d ← d.settleBegun begun
          match value with
          | some v => scan (← d.settle name (some v)) none rest
          | none => scan d (some (name, none)) rest
    | .short letters =>
      if letters.head? = some 'h' then do
        let _ ← d.settleBegun begun
        .error .displayHelp
      else .error .unknownArgument
    | .plain text =>
      match begun with
      | some (name, none) => scan d (some (name, some text)) rest
      | _ => .error .unknownArgument

/-- Reads a command line, whose first part is the name of the program. -/
def parse (commandLine : List String) : Except ArgumentError WorkerArguments :=
  scan {} none commandLine.tail

end WorkerArguments

end JobSupervision
