/-
# Running scripts

A shell runs the commands of a script one after the other.  It keeps the files, the variables
and the time that has passed, and collects what is written to the two streams.  Loops take
fuel; a script that uses it up counts as one that goes on for ever.
-/
import JobSupervision.Launch.Program
import JobSupervision.Script.Parser
import JobSupervision.Script.Utility

namespace JobSupervision.Script

/-- Bytes written to one of the two streams. -/
structure Writing where
  /-- Whether they go to the error stream. -/
  toErrors : Bool
  /-- When, and the bytes. -/
  chunk : Chunk

/-- Where a stream goes. -/
inductive Target where
  /-- To the output of the shell. -/
  | output
  /-- To the error stream of the shell. -/
  | errors
  /-- Into a file. -/
  | file (path : Path)
  /-- Nowhere. -/
  | nowhere
deriving DecidableEq

/-- Where the two streams go and what the input is. -/
structure Streams where
  /-- Where the output goes. -/
  output : Target := .output
  /-- Where the error stream goes. -/
  errors : Target := .errors
  /-- What can be read from the input. -/
  input : List UInt8 := []

namespace Streams

/-- Where a stream goes. -/
def target (s : Streams) (stream : Nat) : Target := if stream = 2 then s.errors else s.output

/-- Sends a stream to a target. -/
def send (s : Streams) (stream : Nat) (target : Target) : Streams :=
  if stream = 2 then { s with errors := target } else { s with output := target }

/-- Whether a target is a stream that the shell was given. -/
def isGiven (t : Target) : Bool := t = .output || t = .errors

/-- Whether any stream goes where the shell was given one. -/
def holds (s : Streams) : Bool := isGiven s.output || isGiven s.errors

end Streams

/-- A shell on its way through a script. -/
structure Shell where
  /-- The files, with the working directory. -/
  files : FileSystem
  /-- The name of the script. -/
  name : List Char
  /-- The arguments of the script. -/
  arguments : List (List Char)
  /-- How many line ends the script has. -/
  lineEnds : Nat
  /-- The values of the variables. -/
  bindings : List (List Char × List Char) := []
  /-- Where the streams go and come from. -/
  streams : Streams := {}
  /-- What was written, newest first. -/
  written : List Writing := []
  /-- How much time has passed, in milliseconds. -/
  elapsed : Nat := 0
  /-- The status of the last command. -/
  status : Nat := 0
  /-- What is done when signals come, by their numbers; zero stands for the end of the shell. -/
  traps : List (Nat × Command) := []
  /-- What is to be done because of a signal that came. -/
  caught : Option Command := none
  /-- Whether this shell goes on beside another one. -/
  isBeside : Bool := false
  /-- When the last of the commands that go on beside the shell ends. -/
  besideUntil : Nat := 0
  /-- Until when those commands hold the streams of the shell. -/
  heldUntil : Nat := 0
  /-- Whether one of those commands goes on for ever. -/
  besideEndless : Bool := false
  /-- How the shell ended, once it has. -/
  ended : Option ProgramEnd := none
  /-- Whether the shell goes on for ever. -/
  endless : Bool := false

namespace Shell

/-- The number that a shell gives as that of its process. -/
def processNumber : Nat := 4711

/-- Whether a shell does nothing more. -/
def isDone (s : Shell) : Bool := s.ended.isSome || s.endless

/-- Writes bytes at a time to where a stream goes. -/
def writeChunk (s : Shell) (toErrors : Bool) (chunk : Chunk) : Shell :=
  if chunk.bytes.isEmpty then s
  else
    match if toErrors then s.streams.errors else s.streams.output with
    | .output => { s with written := ⟨false, chunk⟩ :: s.written }
    | .errors => { s with written := ⟨true, chunk⟩ :: s.written }
    | .nowhere => s
    | .file path =>
      match (s.files.read path).bind fun content => s.files.write path (content ++ chunk.bytes) with
      | .ok files => { s with files := files }
      | .error _ => s

/-- Writes bytes to where a stream goes. -/
def write (s : Shell) (toErrors : Bool) (bytes : List UInt8) : Shell :=
  s.writeChunk toErrors ⟨s.elapsed, bytes⟩

/-- The value of a variable. -/
def valueOf (s : Shell) (name : List Char) : List Char := (s.bindings.lookup name).getD []

/-- Sets a variable. -/
def assign (s : Shell) (name text : List Char) : Shell :=
  { s with bindings := (name, text) :: s.bindings.filter (·.1 ≠ name) }

/-- Tells what is wrong with a line of the script. -/
def complain (s : Shell) (linesBehind : Nat) (text : String) (status : Nat) : Shell :=
  let number := s.lineEnds - linesBehind + 1
  let place := String.ofList s.name ++ ": " ++ toString number ++ ": "
  { s.write true (bytesOf (place ++ text ++ "\n")) with status := status }

/-- What was written to the output, oldest first. -/
def outputBytes (s : Shell) : List UInt8 :=
  (s.written.reverse.filter fun w => !w.toErrors).flatMap fun w => w.chunk.bytes

/-- A shell inside a shell, whose writing is collected by itself. -/
def sub (s : Shell) (input : List UInt8) : Shell :=
  { s with streams := ⟨.output, .errors, input⟩, written := [] }

/-- Hands on what a shell inside wrote: its complaints and, if that is wanted, its output. -/
def handOn (s : Shell) (withOutput : Bool) (inner : Shell) : Shell :=
  inner.written.reverse.foldl (fun s w =>
    if w.toErrors || withOutput then s.writeChunk w.toErrors w.chunk else s) s

/-- The shell after the end of one inside it.  The files and the time stay; the end of the inner
shell is a status unless a signal ended it. -/
def afterSub (s : Shell) (withOutput : Bool) (inner : Shell) : Shell :=
  let s := { s with
    files := { inner.files with workDir := s.files.workDir }
    elapsed := inner.elapsed
    endless := inner.endless
    besideUntil := inner.besideUntil
    heldUntil := inner.heldUntil
    besideEndless := inner.besideEndless }
  let s := s.handOn withOutput inner
  match inner.ended with
  | some (.exited code) => { s with status := code }
  | some (.signalled number) => { s with ended := some (.signalled number) }
  | none => { s with status := inner.status }

/-- The shell that goes on beside a command, which does all it ever does. -/
def leaveBeside (s inner : Shell) : Shell :=
  { s with
    files := { inner.files with workDir := s.files.workDir }
    written := inner.written
    besideUntil := max s.besideUntil (max inner.elapsed inner.besideUntil)
    heldUntil := max s.heldUntil inner.heldUntil
    besideEndless := s.besideEndless || inner.endless || inner.besideEndless
    status := 0 }

/-- Waits for the commands that go on beside the shell. -/
def waitBeside (s : Shell) : Shell :=
  { s with elapsed := max s.elapsed s.besideUntil, endless := s.besideEndless, status := 0 }

/-- Does what a utility did. -/
def take (s : Shell) (e : Effect) : Shell :=
  let now := s.elapsed + e.millis
  let held := if s.isBeside && s.streams.holds then max s.heldUntil now else s.heldUntil
  let s := { s with files := e.files, elapsed := now, heldUntil := held, status := e.status }
  (s.write false e.printed).write true e.complained

/-! ### Words -/

/-- The fields of words: those that are complete, newest first, and the one that is open. -/
structure Fields where
  /-- The complete fields, newest first. -/
  complete : List (List Char) := []
  /-- The field that is open. -/
  pending : Option (List Char) := none

/-- Adds text to the open field. -/
def Fields.add (f : Fields) (text : List Char) : Fields :=
  { f with pending := some (f.pending.getD [] ++ text) }

/-- Ends the open field. -/
def Fields.close (f : Fields) : Fields :=
  match f.pending with
  | some field => { complete := field :: f.complete }
  | none => f

/-- Adds text that is split at blanks. -/
def Fields.addSplit (f : Fields) (text : List Char) : Fields :=
  text.foldl (fun f c => if c ∈ [' ', '\t', '\n'] then f.close else f.add [c]) f

/-- Adds fields side by side; the first one goes on with the open field. -/
def Fields.addAll (f : Fields) : List (List Char) → Fields
  | [] => f
  | [text] => f.add text
  | text :: rest => ((f.add text).close).addAll rest

/-- All fields. -/
def Fields.toList (f : Fields) : List (List Char) := f.close.complete.reverse

/-- A text without the line ends at its end. -/
def chomp (text : List Char) : List Char := (text.reverse.dropWhile (· = '\n')).reverse

/-! ### Redirections -/

/-- Opens a file for writing. -/
def openFile (s : Shell) (path : Path) (behind : Bool) : Except FileFault Shell :=
  let content := if behind then (s.files.read path).toOption.getD [] else []
  (s.files.write path content).map fun files => { s with files := files }

/-- Where the writing goes that is sent to a device. -/
def device? (streams : Streams) : String → Option Target
  | "/dev/null" => some .nowhere
  | "/dev/stdout" => some streams.output
  | "/dev/stderr" => some streams.errors
  | _ => none

/-- Why a file was not opened for writing. -/
def creationFault : FileFault → String
  | .missing => "Directory nonexistent"
  | fault => fault.reason

/-! ### Commands of the shell itself -/

/-- The number of a signal that a word names. -/
def signal? (word : List Char) : Option Nat :=
  if word.all Char.isDigit && !word.isEmpty then some (Utility.number word)
  else
    let name := String.ofList word
    (ProgramEnd.signalNames.find? fun n => n.2 = name || "SIG" ++ n.2 = name).map (·.1)

/-- The signals that do not end a program. -/
def harmless : List Nat := [0, 17, 18, 23, 28]

/-- The signals that stop a program for as long as nobody wakes it. -/
def stopping : List Nat := [19, 20, 21, 22]

/-- The signals for which nothing else can be done. -/
def deaf : List Nat := [9, 19]

/-- Sends a signal to a process, which is the shell itself or nobody. -/
def signal (s : Shell) (linesBehind number : Nat) (process : List Char) : Shell :=
  if String.ofList process ≠ toString processNumber then
    s.complain linesBehind "kill: No such process" 1
  else
    match if deaf.contains number then none else s.traps.lookup number with
    | some command => { s with caught := some command, status := 0 }
    | none =>
      if harmless.contains number then { s with status := 0 }
      else if stopping.contains number then { s with endless := true }
      else { s with ended := some (.signalled number) }

/-- Sends the signal that some arguments name. -/
def kill (s : Shell) (linesBehind : Nat) (args : List (List Char)) : Shell :=
  let send (name process : List Char) : Shell :=
    match signal? name with
    | some number => s.signal linesBehind number process
    | none =>
      s.complain linesBehind ("kill: invalid signal number or name: " ++ String.ofList name) 2
  match args with
  | [['-', 's'], name, process] => send name process
  | ['-' :: name, process] => send name process
  | [process] => s.signal linesBehind 15 process
  | _ =>
    s.complain linesBehind "kill: Usage: kill [-s sigspec | -signum | -sigspec] [pid | job]..." 2

/-- Changes the working directory. -/
def changeDirectory (s : Shell) (linesBehind : Nat) (target : List Char) : Shell :=
  match s.files.locate (pathOf target), s.files.isDirectory (pathOf target) with
  | .ok l, true => { s with files := { s.files with workDir := l }, status := 0 }
  | _, _ => s.complain linesBehind ("cd: can't cd to " ++ String.ofList target) 2

/-- The utility that a word names, by its name alone or in a directory of programs. -/
def utility? (name : List Char) : Option Utility :=
  let directories := ["/bin/", "/usr/bin/"]
  match directories.find? fun d => d.toList.isPrefixOf name with
  | some d => Utility.find? (name.drop d.length)
  | none => Utility.find? name

/-- Ends the shell with a status. -/
def exit (s : Shell) (status : Int) : Shell := { s with ended := some (.ofCode status) }

/-- Ends the shell with the status that a word writes. -/
def exitWith (s : Shell) (linesBehind : Nat) (word : List Char) : Shell :=
  if word.all Char.isDigit && !word.isEmpty then s.exit (leadingInt word)
  else (s.complain linesBehind ("exit: Illegal number: " ++ String.ofList word) 2).exit 2

/-- Sets what is done when some signals come. -/
def setTraps (s : Shell) (action : Option Command) (signals : List (List Char)) : Shell :=
  let numbers := signals.filterMap fun name =>
    if name = "EXIT".toList then some 0 else signal? name
  let others := s.traps.filter fun t => !numbers.contains t.1
  { s with
    traps := others ++ (action.toList.flatMap fun c => numbers.map fun n => (n, c))
    status := 0 }

/-- Sets what some arguments say is to be done when signals come. -/
def trap (s : Shell) (args : List (List Char)) : Shell :=
  match args with
  | ['-'] :: signals => s.setTraps none signals
  | text :: signals => s.setTraps (some ((parse? text).getD .nothing)) signals
  | [] => { s with status := 0 }

/-- Reads a line of the input into some variables; the last one takes what is left. -/
def read (s : Shell) (names : List (List Char)) : Shell :=
  let line := ((Console.segments s.streams.input).head?).getD []
  let rest := s.streams.input.drop line.length
  let skip (cs : List Char) : List Char := cs.dropWhile fun c => c ∈ [' ', '\t']
  let trimmed := (skip (skip (Console.lineOf line).toList).reverse).reverse
  let (s, _) := names.zipIdx.foldl (fun (acc : Shell × List Char) n =>
    let text := skip acc.2
    let word := if n.2 + 1 = names.length then text else text.takeWhile fun c => !(c ∈ [' ', '\t'])
    (acc.1.assign n.1 word, text.drop word.length)) (s, trimmed)
  { s with
    streams := { s.streams with input := rest }
    status := if Console.isWhole line then 0 else 1 }

/-- Sets variables that go on to programs. -/
def exportAll (s : Shell) (args : List (List Char)) : Shell :=
  args.foldl (fun s cs =>
    let name := cs.takeWhile (· ≠ '=')
    if name.length < cs.length then s.assign name (cs.drop (name.length + 1)) else s)
    { s with status := 0 }

/-- Does a simple command with its fields. -/
def perform (s : Shell) (linesBehind : Nat) (name : List Char) (args : List (List Char)) : Shell :=
  let call (place : String) (name : List Char) (args : List (List Char)) : Shell :=
    match utility? name with
    | some u => s.take (u args s.streams.input s.files)
    | none => s.complain linesBehind (place ++ String.ofList name ++ ": not found") 127
  match String.ofList name, args with
  | "exit", [] => s.exit s.status
  | "exit", code :: _ => s.exitWith linesBehind code
  | "exec", name :: args =>
    let s := call "exec: " name args
    if s.isDone then s else s.exit s.status
  | "exec", [] => { s with status := 0 }
  | "kill", args => s.kill linesBehind args
  | "cd", target :: _ => s.changeDirectory linesBehind target
  | "shift", _ => { s with arguments := s.arguments.tail, status := 0 }
  | "trap", args => s.trap args
  | "read", args => s.read (args.filter fun cs => cs ≠ ['-', 'r'])
  | "wait", _ => s.waitBeside
  | "export", args => s.exportAll args
  | "unset", args =>
    { s with bindings := s.bindings.filter fun v => !args.contains v.1, status := 0 }
  | "set", _ | "umask", _ | "ulimit", _ => { s with status := 0 }
  | _, args => call "" name args

/-- Whether some text is one that a pattern describes: a star stands for any characters, a
question mark for one. -/
def fits : Nat → List Char → List Char → Bool
  | 0, _, _ => false
  | _, [], cs => cs.isEmpty
  | fuel + 1, '*' :: pattern, cs =>
    fits fuel pattern cs ||
      match cs with
      | _ :: rest => fits fuel ('*' :: pattern) rest
      | [] => false
  | fuel + 1, '?' :: pattern, cs =>
    match cs with
    | _ :: rest => fits fuel pattern rest
    | [] => false
  | fuel + 1, c :: pattern, cs =>
    match cs with
    | d :: rest => c = d && fits fuel pattern rest
    | [] => false

/-- Whether a command only changes the streams of the shell itself. -/
def isRerouting : Command → Bool
  | .simple _ [] [w] =>
    (w.flatMap fun
      | .literal text => text
      | .value _ _ => [' ']) = "exec".toList
  | _ => false

/-! ### The shell -/

mutual

/-- The text of a value, with the shell after finding it out. -/
def valueText : Nat → Shell → Value → List Char × Shell
  | 0, s, _ => ([], { s with endless := true })
  | fuel + 1, s, v =>
    match v with
    | .named name => (s.valueOf name, s)
    | .argument 0 => (s.name, s)
    | .argument (n + 1) => ((s.arguments[n]?).getD [], s)
    | .arguments => (List.intercalate [' '] s.arguments, s)
    | .argumentCount => ((toString s.arguments.length).toList, s)
    | .status => ((toString s.status).toList, s)
    | .processNumber => ((toString processNumber).toList, s)
    | .printed commands =>
      let inner := run fuel (s.sub s.streams.input) commands
      (chomp (Text.Utf8.decodeLossy inner.outputBytes), s.afterSub false inner)
    | .sum expression =>
      match calculate? s.valueOf expression with
      | some n => ((toString n).toList, s)
      | none => ([], s.exit 2)

/-- Adds the pieces of a word to some fields; values are split only if that is asked for. -/
def expand : Nat → Bool → Shell → Fields → Word → Fields × Shell
  | 0, _, s, f, _ => (f, { s with endless := true })
  | _, _, s, f, [] => (f, s)
  | fuel + 1, split, s, f, piece :: rest =>
    match piece with
    | .literal text => expand fuel split s (f.add text) rest
    | .value .arguments true =>
      if split then expand fuel split s (f.addAll s.arguments) rest
      else expand fuel split s (f.add (List.intercalate [' '] s.arguments)) rest
    | .value v quoted =>
      let (text, s) := valueText fuel s v
      expand fuel split s (if split && !quoted then f.addSplit text else f.add text) rest

/-- The fields of some words. -/
def expandWords : Nat → Shell → List Word → List (List Char) × Shell
  | 0, s, _ => ([], { s with endless := true })
  | _, s, [] => ([], s)
  | fuel + 1, s, w :: ws =>
    let (f, s) := expand fuel true s {} w
    let (rest, s) := expandWords fuel s ws
    (f.toList ++ rest, s)

/-- A word as one text. -/
def expandText : Nat → Shell → Word → List Char × Shell
  | 0, s, _ => ([], { s with endless := true })
  | fuel + 1, s, w =>
    let (f, s) := expand fuel false s {} w
    (f.pending.getD [], s)

/-- Sets some variables. -/
def assignAll : Nat → Shell → List (List Char × Word) → Shell
  | 0, s, _ => { s with endless := true }
  | _, s, [] => s
  | fuel + 1, s, (name, w) :: rest =>
    let (text, s) := expandText fuel s w
    assignAll fuel (s.assign name text) rest

/-- Follows the redirections of a command; the first one that fails ends it. -/
def redirect : Nat → Nat → Shell → Streams → List Redirection → Option Streams × Shell
  | 0, _, s, _, _ => (none, { s with endless := true })
  | _, _, s, streams, [] => (some streams, s)
  | fuel + 1, linesBehind, s, streams, r :: rest =>
    match r with
    | .closed stream => redirect fuel linesBehind s (streams.send stream .nowhere) rest
    | .same stream target =>
      redirect fuel linesBehind s (streams.send stream (streams.target target)) rest
    | .here text =>
      let (text, s) := expandText fuel s text
      redirect fuel linesBehind s { streams with input := Text.Utf8.encode text } rest
    | .input source =>
      let (name, s) := expandText fuel s source
      match Utility.source s.files [] name with
      | .ok content => redirect fuel linesBehind s { streams with input := content } rest
      | .error _ =>
        (none, s.complain linesBehind ("cannot open " ++ String.ofList name ++ ": No such file") 2)
    | .output stream target behind =>
      let (name, s) := expandText fuel s target
      match device? streams (String.ofList name) with
      | some place => redirect fuel linesBehind s (streams.send stream place) rest
      | none =>
        match s.openFile (pathOf name) behind with
        | .ok s => redirect fuel linesBehind s (streams.send stream (.file (pathOf name))) rest
        | .error fault =>
          (none, s.complain linesBehind ("cannot create " ++ String.ofList name ++ ": " ++
            creationFault fault) 2)

/-- Runs a command. -/
def run : Nat → Shell → Command → Shell
  | 0, s, _ => { s with endless := true }
  | fuel + 1, s, c =>
    if s.isDone then s
    else
      match c with
      | .nothing => s
      | .simple linesBehind assignments ws =>
        let status := if ws.isEmpty then 0 else s.status
        let (fields, s) := expandWords fuel { s with status := status } ws
        if s.isDone then s
        else
          match fields with
          | [] => assignAll fuel s assignments
          | name :: args => answer fuel (s.perform linesBehind name args)
      | .redirected linesBehind command redirections =>
        match redirect fuel linesBehind s s.streams redirections with
        | (none, s) => s
        | (some streams, s) =>
          let inner := run fuel { s with streams := streams } command
          if isRerouting command then inner else { inner with streams := s.streams }
      | .sequence first second => run fuel (run fuel s first) second
      | .depending onSuccess first second =>
        let s := run fuel s first
        if (s.status == 0) == onSuccess then run fuel s second else s
      | .pipe first second =>
        let left := run fuel (s.sub s.streams.input) first
        let s := s.afterSub false left
        s.afterSub true (run fuel (s.sub left.outputBytes) second)
      | .negated command =>
        let s := run fuel s command
        { s with status := if s.status = 0 then 1 else 0 }
      | .inner command => s.afterSub true (run fuel (s.sub s.streams.input) command)
      | .beside command =>
        let beside := { s with isBeside := true, streams := { s.streams with input := [] } }
        s.leaveBeside (run fuel beside command)
      | .select subject branches =>
        let (text, s) := expandText fuel s subject
        select fuel s text branches
      | .choice condition yes no =>
        let s := run fuel s condition
        run fuel s (if s.status = 0 then yes else no)
      | .loop whileSuccess condition body =>
        let tested := run fuel s condition
        if tested.isDone then tested
        else if (tested.status == 0) == whileSuccess then
          run fuel (run fuel tested body) (.loop whileSuccess condition body)
        else { tested with status := 0 }
      | .each name ws body =>
        let (fields, s) := expandWords fuel s ws
        each fuel s name fields body

/-- Does what is to be done because of a signal that came. -/
def answer : Nat → Shell → Shell
  | 0, s => { s with endless := true }
  | fuel + 1, s =>
    match s.caught with
    | some command => run fuel { s with caught := none } command
    | none => s

/-- Runs the first command that has a pattern which fits a text. -/
def select : Nat → Shell → List Char → List (List Word × Command) → Shell
  | 0, s, _, _ => { s with endless := true }
  | _, s, _, [] => { s with status := 0 }
  | fuel + 1, s, text, (patterns, command) :: rest =>
    match patterns with
    | [] => select fuel s text rest
    | w :: others =>
      let (pattern, s) := expandText fuel s w
      if fits (pattern.length + text.length + 1) pattern text then run fuel s command
      else select fuel s text ((others, command) :: rest)

/-- Runs a command for each of some values of a variable. -/
def each : Nat → Shell → List Char → List (List Char) → Command → Shell
  | 0, s, _, _, _ => { s with endless := true }
  | _, s, _, [], _ => s
  | fuel + 1, s, name, value :: rest, body =>
    if s.isDone then s else each fuel (run fuel (s.assign name value) body) name rest body

end

/-- The fuel of a script. -/
def fuel : Nat := 100000

/-- The shell after what is to be done at its end. -/
def conclude (s : Shell) : Shell :=
  match s.ended, s.traps.lookup 0 with
  | some (.signalled _), _ | _, none => s
  | ended, some command =>
    let last := run fuel { s with ended := none } command
    { last with ended := last.ended.orElse fun _ => some (ended.getD (.exited s.status)) }

/-- What a shell did from its start to its end. -/
def programRun (s : Shell) : ProgramRun :=
  let written := s.written.reverse.mergeSort fun a b => a.chunk.millis ≤ b.chunk.millis
  { printed := (written.filter fun w => !w.toErrors).map (·.chunk)
    complained := (written.filter (·.toErrors)).map (·.chunk)
    ending := if s.endless then none else some (s.elapsed, s.ended.getD (.exited s.status))
    letGo := if s.besideEndless then none else some s.heldUntil
    files := s.files }

end Shell

/-- A script as a program. -/
def program (content : List UInt8) : Program := fun commandLine fs =>
  let text := Text.Utf8.decodeLossy content
  let name := (commandLine.head?.getD "").toList
  let start : Shell :=
    { files := fs, name := name, arguments := commandLine.tail.map String.toList,
      lineEnds := text.count '\n' }
  match parse? text with
  | some commands => (Shell.run Shell.fuel start commands).conclude.programRun
  | none => (start.complain 0 "Syntax error" 2).programRun

/-- The utilities that can be started as they are, whatever their arguments. -/
def plainUtilities : List String := ["true", "false", "echo"]

/-- The utility at a path as a program. -/
def systemProgram? (path : Path) : Option Program := do
  let name ← plainUtilities.find? fun name =>
    ["/bin/", "/usr/bin/", ""].any fun d => path.text = d ++ name
  let utility ← Utility.find? name.toList
  some fun commandLine fs =>
    let e := utility (commandLine.tail.map String.toList) [] fs
    { printed := [⟨0, e.printed⟩], complained := [⟨0, e.complained⟩]
      ending := some (e.millis, .ofCode e.status), files := e.files }

end JobSupervision.Script
