/-
# Launching workers on a machine

A machine has a clock, files and programs.  Launching a worker makes an exchange directory,
writes the payload there, and starts the program with a command line that names the files; the
record is read when the worker has ended.  The exchange directory goes with the worker.

Time passes only when somebody waits.  A program needs a moment to start, and a watcher needs a
moment to see a wish to cancel.
-/
import JobSupervision.Launch.CommandLine
import JobSupervision.Launch.Conclusion
import JobSupervision.Launch.Configuration
import JobSupervision.Launch.Handle
import JobSupervision.Script.Shell
import JobSupervision.Worker.Payload
import JobSupervision.Worker.Run

namespace JobSupervision

/-- A worker as a program, with the kinds of work it knows. -/
def Worker.program (registry : WorkRegistry) : Program := fun commandLine fs =>
  let run := Worker.start registry commandLine fs
  let printed := Text.Utf8.encode (run.console.flatMap fun line => line.toList ++ ['\n'])
  { printed := [⟨0, printed⟩], complained := [], ending := some (run.pauseMs, .ofCode run.exitCode)
    files := run.files }

/-- A machine. -/
structure Machine where
  /-- The time in milliseconds. -/
  clock : Nat := 0
  /-- The files, with the working directory. -/
  files : FileSystem
  /-- The programs that are no scripts, by their paths. -/
  programs : List (Path × Program) := []
  /-- How many workers were started. -/
  started : Nat := 0

/-- Why a program does not start. -/
inductive StartFault where
  /-- The working directory or the program is not there or not of the right sort. -/
  | file (fault : FileFault)
  /-- A text holds the character that ends texts. -/
  | unspeakable
deriving DecidableEq, Repr

/-- The text of a fault. -/
def StartFault.message : StartFault → String
  | .file fault => fault.message
  | .unspeakable => "nul byte found in provided data"

namespace Machine

/-- The files as a program finds them that is started in a directory. -/
def enter (fs : FileSystem) : Option Path → Except FileFault FileSystem
  | none => .ok fs
  | some dir => do
    match ← fs.lookup dir with
    | .file _ _ => .error .notDirectory
    | .directory => .ok { fs with workDir := ← fs.locate dir }

/-- The program at a path: one of the machine's own, a utility or a script. -/
def program (m : Machine) (fs : FileSystem) (path : Path) : Except FileFault Program :=
  match (m.programs.find? fun p => p.1.same path).map (·.2) <|> Script.systemProgram? path with
  | some program => .ok program
  | none => do
    if path.text.toList.contains '/' then
      match ← fs.lookup path with
      | .file content true => .ok (Script.program content)
      | _ => .error .denied
    else .error .missing

/-- Starts a program in a directory. -/
def start (m : Machine) (path : Path) (dir : Option Path) (args : List String) :
    Except StartFault ProgramRun :=
  let texts := path.text :: (dir.toList.map Path.text ++ args)
  if texts.any fun t => t.toList.contains '\x00' then .error .unspeakable
  else
    match enter m.files dir with
    | .error fault => .error (.file fault)
    | .ok fs =>
      match m.program fs path with
      | .error fault => .error (.file fault)
      | .ok program => .ok (program (path.text :: args) fs)

/-- The name of the payload in an exchange directory. -/
def payloadName : String := "work.json"

/-- The name of the record in an exchange directory. -/
def recordName : String := "result.json"

/-- The directory for exchange directories where none is set. -/
def commonExchange : Path := ⟨"/tmp"⟩

/-- The exchange directory for the next worker. -/
def exchange (m : Machine) (settings : LauncherSettings) : Path :=
  (m.files.here.join (settings.exchangeDir.getD commonExchange)).join
    ⟨"vessel-" ++ toString (m.started + 1)⟩

end Machine

/-- A launch on a machine. -/
structure Launched (V : Type) where
  /-- The kind of work. -/
  kind : String
  /-- The number of the process. -/
  process : Nat
  /-- When it was launched. -/
  startedAt : Nat
  /-- What the program does. -/
  run : ProgramRun
  /-- The outcome when the worker ends by itself. -/
  outcome : LaunchOutcome V
  /-- The handle. -/
  handle : LaunchHandle V := .fresh
  /-- When the watcher stopped the worker. -/
  stoppedAt : Option Nat := none
  /-- When the outcome was settled. -/
  settledAt : Option Nat := none

namespace Machine

variable {W V : Type}

/-- The launch of a worker whose exchange directory was made. -/
def launchIn (m : Machine) (exchange : Path) (files : FileSystem) (settings : LauncherSettings)
    (work : WorkType W V) (params : Json) (c : LaunchConfiguration W) :
    Except LaunchError (Launched V) := do
  let payload := exchange.join ⟨payloadName⟩
  let record := exchange.join ⟨recordName⟩
  let order : WorkPayload :=
    ⟨WorkPayload.currentVersion, work.kindName, params, c.resolvedClasspath⟩
  let files ← match files.write payload order.bytes with
    | .ok files => .ok files
    | .error fault =>
      .error (.plain ("writing payload " ++ payload.text ++ ": " ++ fault.message))
  let args ← WorkerCommand.arguments ⟨payload, record, c.resolvedClasspath, c.heapInitial,
    c.heapMax, c.extraFlags⟩
  match start { m with files := files } settings.workerProgram c.workDir args with
  | .error fault =>
    .error (.plain
      ("spawning worker " ++ settings.workerProgram.text ++ ": " ++ fault.message))
  | .ok run =>
    let ending := (run.ending.map (·.2)).getD (.exited 0)
    let remains : WorkerRemains :=
      ⟨ending, run.printed.flatMap (·.bytes), run.complained.flatMap (·.bytes),
        { run.files with workDir := m.files.workDir }.read record⟩
    .ok { kind := work.kindName, process := m.started + 1, startedAt := m.clock, run := run,
          outcome := remains.conclude settings work }

/-- Launches a worker.  What the worker leaves outside its exchange directory stays. -/
def launch (m : Machine) (settings : LauncherSettings) (work : WorkType W V)
    (c : LaunchConfiguration W) : Machine × Except LaunchError (Launched V) :=
  match work.encode? c.work with
  | none => (m, .error (.configuration ("encoding " ++ work.kindName ++ " parameters")))
  | some params =>
    let exchange := m.exchange settings
    match m.files.locate exchange with
    | .error fault =>
      (m, .error (.plain ("creating exchange directory: " ++ fault.message)))
    | .ok l =>
      match launchIn m exchange (m.files.put l .directory) settings work params c with
      | .error e => (m, .error e)
      | .ok launched =>
        let files := { launched.run.files.removeTree l with workDir := m.files.workDir }
        ({ m with files := files, started := m.started + 1 }, .ok launched)

end Machine

namespace Launched

variable {V : Type}

/-- How long a program needs to start, and a watcher to see a wish to cancel. -/
def moment : Nat := 1

/-- When the worker ends by itself. -/
def endsAt? (l : Launched V) : Option Nat :=
  l.run.ending.map fun e => l.startedAt + moment + e.1

/-- Wants the worker to be stopped. -/
def cancel (l : Launched V) : Launched V := { l with handle := l.handle.cancel }

/-- The watcher looks at the launch at some time. -/
def watchAt (l : Launched V) (time : Nat) : Launched V :=
  let handle := l.handle.watch
  { l with
    handle := handle
    settledAt := l.settledAt.orElse fun _ => if handle.settled.isSome then some time else none }

/-- Whether the watcher is about to stop the worker. -/
def isToBeStopped (l : Launched V) : Bool :=
  l.handle.cancelling && l.stoppedAt.isNone && l.handle.ended.isNone

/-- When the worker is over: stopped, or by itself. -/
def overAt? (l : Launched V) : Option Nat := l.stoppedAt.orElse fun _ => l.endsAt?

/-- When the outcome is settled of a worker that is over at some time: its streams must be at
their end. -/
def settlesAfter? (l : Launched V) (time : Nat) : Option Nat :=
  l.run.letGo.map fun held => max time (l.startedAt + moment + held)

/-- When the outcome will be settled if nobody does anything more. -/
def settlesAt? (l : Launched V) (now : Nat) : Option Nat :=
  (if l.isToBeStopped then some (now + moment) else l.overAt?).bind l.settlesAfter?

/-- The launch with the worker over as far as it is by some time. -/
def endBy (l : Launched V) (now later : Nat) : Launched V :=
  if l.isToBeStopped && now < later then { l with stoppedAt := some (now + moment) }
  else
    match l.stoppedAt, l.endsAt? with
    | none, some time =>
      if time ≤ later then { l with handle := l.handle.finish l.outcome } else l
    | _, _ => l

/-- The launch after the time went on. -/
def passTo (l : Launched V) (now later : Nat) : Launched V :=
  let l := l.endBy now later
  match l.overAt?.bind l.settlesAfter? with
  | some time => if time ≤ later then l.watchAt time else l
  | none => l

/-- Waits for the outcome, for some milliseconds or for as long as it takes: the time
afterwards, the answer and the launch.  Waiting for what never comes has no end. -/
def wait (l : Launched V) (now : Nat) (limitMs : Option Nat) :
    Option (Nat × LaunchOutcome V × Launched V) :=
  match l.handle.take? with
  | some (outcome, handle) => some (now, outcome, { l with handle := handle })
  | none =>
    let give (time : Nat) : Nat × LaunchOutcome V × Launched V :=
      let l := l.passTo now time
      let (outcome, handle) := l.handle.takeWithin (.ofMillis (limitMs.getD 0))
      (time, outcome, { l with handle := handle })
    match l.settlesAt? now, limitMs with
    | some time, none => some (give time)
    | some time, some limit => some (give (min time (now + limit)))
    | none, some limit => some (give (now + limit))
    | none, none => none

/-- The console lines up to a time, each with the time when it came. -/
def consoleLines (l : Launched V) (now : Nat) : List (Nat × String) :=
  let shown := min now (l.settledAt.getD now)
  let chunks := (l.run.printed.map fun c => { c with millis := l.startedAt + moment + c.millis })
  let seen := chunks.filter (·.millis ≤ shown)
  let rest := (Console.segments (seen.flatMap (·.bytes))).filter fun s => !Console.isWhole s
  Chunk.wholeLines [] seen ++
    match l.settledAt with
    | some time => rest.map fun s => (time, Console.lineOf s)
    | none => []

end Launched

end JobSupervision
