/-
# The worker program

Reads the files that the worker looks at, runs the worker on them, and carries out what it
did: the lines it printed, the time it took, the record it left and its exit code.
-/
import JobSupervision.Worker.Outlook

namespace JobSupervision.Worker

/-- What stands at a path, if anything does. -/
def nodeAt (path : Path) : IO (Option Node) := do
  try
    let handle ← IO.FS.Handle.mk path.text .read
    let _ ← handle.read 1
    return some (.file [] false)
  catch e =>
    match e with
    | .inappropriateType .. => return some .directory
    | _ => return none

/-- The file of a payload, if it can be read. -/
def payloadNode (path : Path) : IO (List (Path × Node)) := do
  try
    return [(path, .file (← IO.FS.readBinFile path.text).toList false)]
  catch _ => return []

/-- What stands at some paths. -/
def nodesAt (paths : List Path) : IO (List (Path × Node)) :=
  paths.filterMapM fun path => do return (← nodeAt path).map fun node => (path, node)

/-- The files that matter to a worker. -/
def gather (args : WorkerArguments) : IO FileSystem := do
  let workDir := FileSystem.below [] (← IO.currentDir).toString
  let payload ← payloadNode args.payload
  let searched := match WorkPayload.readFrom (filesAt workDir payload) args.payload with
    | .ok p => searched args p
    | .error _ => []
  let nodes ← nodesAt (searched ++ [directoryOf args.result, args.result])
  return filesAt workDir (payload ++ nodes)

/-- Writes a record to its place, and tells whether that could be done. -/
def leave (path : Path) (content : List UInt8) : IO Bool := do
  try
    let staging := ResultRecord.staging path
    IO.FS.writeBinFile staging.text ⟨content.toArray⟩
    IO.FS.rename staging.text path.text
    return true
  catch _ => return false

/-- Carries out a run. -/
def carryOut (args : WorkerArguments) (run : Run) : IO Int := do
  for line in run.console do
    IO.println line
  (← IO.getStdout).flush
  IO.sleep run.pauseMs.toUInt32
  if run.exitCode = exitSuccess then
    match run.files.read args.result with
    | .ok content => return if ← leave args.result content then exitSuccess else exitRecordUnwritten
    | .error _ => return exitSuccess
  else return run.exitCode

/-- The run of a worker from its command line on. -/
def main (commandLine : List String) : IO Int := do
  match WorkerArguments.parse ("worker" :: commandLine) with
  | .error e => return e.exitCode
  | .ok args => carryOut args (Worker.run standardRegistry args (← gather args))

end JobSupervision.Worker

/-- The worker program. -/
def main (commandLine : List String) : IO UInt32 := do
  let code ← JobSupervision.Worker.main commandLine
  return (code % 256).toNat.toUInt32
