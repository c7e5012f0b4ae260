/-
# The run of a worker

A worker reads its payload, executes the unit of work it names and leaves a result record.
Its exit code tells how far it came.
-/
import JobSupervision.Worker.Arguments
import JobSupervision.Worker.Manifest
import JobSupervision.Worker.Payload
import JobSupervision.Worker.Probe
import JobSupervision.Worker.Record

namespace JobSupervision.Worker

/-- The kinds of work that every worker knows. -/
def standardRegistry : WorkRegistry :=
  (WorkRegistry.empty.register BuildManifest.kind).register Probe.kind

/-- The exit code of a worker that left a record. -/
def exitSuccess : Int := 0

/-- The exit code of a worker whose command line was not accepted. -/
def exitBadArguments : Int := 2

/-- The exit code of a worker whose payload could not be used. -/
def exitBadPayload : Int := 3

/-- The exit code of a worker that could not write its record. -/
def exitRecordUnwritten : Int := 4

/-- What a worker does from its start to its end. -/
structure Run where
  /-- The lines it prints. -/
  console : List String
  /-- How long it pauses, in milliseconds. -/
  pauseMs : Nat
  /-- Its exit code. -/
  exitCode : Int
  /-- The files when it has ended. -/
  files : FileSystem

/-- The context that the arguments and the payload make.  A classpath among the arguments
counts more than that of the payload. -/
def context (args : WorkerArguments) (payload : WorkPayload) : WorkerContext where
  classpath :=
    match args.classpath with
    | some joined => splitClasspath joined
    | none => payload.classpath
  heapInitial := args.heapInitial
  heapMax := args.heapMax
  extraFlags := args.extra

/-- The record of an execution that reports to the launcher. -/
def record? : UnitEnd → Option ResultRecord
  | .value output => some (.success output.sorted)
  | .failure cause => some (.failure cause)
  | .unencodable => none
  | .exits _ => none

/-- The execution that a payload asks for, unless the kind is not known or the parameters do
not belong to it. -/
def dispatch? (registry : WorkRegistry) (payload : WorkPayload) (ctx : WorkerContext)
    (fs : FileSystem) : Option UnitExecution :=
  (registry.find? payload.kind).bind fun k => k.execute? payload.params ctx fs

/-- The files as the unit of work leaves them that a payload asks for. -/
def filesLeft (registry : WorkRegistry) (payload : WorkPayload) (ctx : WorkerContext)
    (fs : FileSystem) : FileSystem :=
  match registry.find? payload.kind with
  | some k => k.leaves payload.params ctx fs
  | none => fs

/-- The end of a worker whose unit of work was executed and left some files. -/
def finish (args : WorkerArguments) (fs : FileSystem) (e : UnitExecution) : Run :=
  match e.ending with
  | .exits code => ⟨e.console, e.pauseMs, code, fs⟩
  | ending =>
    match record? ending with
    | none => ⟨e.console, e.pauseMs, exitBadPayload, fs⟩
    | some record =>
      match record.writeAtomic fs args.result with
      | (.ok (), after) => ⟨e.console, e.pauseMs, exitSuccess, after⟩
      | (.error _, after) => ⟨e.console, e.pauseMs, exitRecordUnwritten, after⟩

/-- The run of a worker whose command line was accepted. -/
def run (registry : WorkRegistry) (args : WorkerArguments) (fs : FileSystem) : Run :=
  match WorkPayload.readFrom fs args.payload with
  | .error _ => ⟨[], 0, exitBadPayload, fs⟩
  | .ok payload =>
    let ctx := context args payload
    match dispatch? registry payload ctx fs with
    | none => ⟨[], 0, exitBadPayload, fs⟩
    | some e => finish args (filesLeft registry payload ctx fs) e

/-- The run of a worker from its command line on. -/
def start (registry : WorkRegistry) (commandLine : List String) (fs : FileSystem) : Run :=
  match WorkerArguments.parse commandLine with
  | .error e => ⟨[], 0, e.exitCode, fs⟩
  | .ok args => run registry args fs

/-- A payload that cannot be read ends the worker before anything is changed. -/
theorem run_of_read_error {registry : WorkRegistry} {args : WorkerArguments} {fs : FileSystem}
    {e : PayloadFault} (h : WorkPayload.readFrom fs args.payload = .error e) :
    run registry args fs = ⟨[], 0, exitBadPayload, fs⟩ := by
  simp [run, h]

end JobSupervision.Worker
