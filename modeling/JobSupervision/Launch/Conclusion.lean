/-
# What a launch concludes from the end of its worker

The worker ends with a code, a transcript and a record; together they are the outcome of the
launch.  Only a worker that ended well and left a record of the right form has a result.
-/
import JobSupervision.Launch.Execution
import JobSupervision.Launch.Program
import JobSupervision.Launch.Work
import JobSupervision.Settings
import JobSupervision.Worker.Record

namespace JobSupervision

/-- What is left of a worker that ended: how it ended, all it wrote, and its record if there
is one. -/
structure WorkerRemains where
  /-- How it ended. -/
  ending : ProgramEnd
  /-- All that it wrote to its output. -/
  printed : List UInt8
  /-- All that it wrote to its error stream. -/
  complained : List UInt8
  /-- The file of its record. -/
  record : Except FileFault (List UInt8)

namespace WorkerRemains

variable {W V : Type}

/-- The console lines that are kept. -/
def transcript (r : WorkerRemains) (settings : LauncherSettings) : List String :=
  Console.kept settings.transcriptLimit.toNat (Console.lines r.printed)

/-- The lines of the error stream that are kept. -/
def diagnostics (r : WorkerRemains) (settings : LauncherSettings) : List String :=
  Console.kept settings.diagnosticTail.toNat (Console.lines r.complained)

/-- The failure of a worker that did not keep to its part. -/
def breach (r : WorkerRemains) (settings : LauncherSettings) (message : String) :
    LaunchOutcome V :=
  .error (.launcher message r.ending.code? (r.diagnostics settings))

/-- The outcome for a record. -/
def concludeRecord (r : WorkerRemains) (settings : LauncherSettings) (work : WorkType W V)
    (record : ResultRecord) : LaunchOutcome V :=
  match record with
  | .failure cause => .ok (.failure cause (r.transcript settings))
  | .success value =>
    match work.result? value.toDoc with
    | some v => .ok (.success v (r.transcript settings))
    | none =>
      r.breach settings
        ("protocol violation: " ++ work.kindName ++ " value does not match its output type")

/-- The outcome of a launch whose worker has ended. -/
def conclude (r : WorkerRemains) (settings : LauncherSettings) (work : WorkType W V) :
    LaunchOutcome V :=
  if r.ending = .exited 0 then
    match r.record with
    | .error fault => r.breach settings ("result record missing: " ++ fault.message)
    | .ok content =>
      match ResultRecord.ofBytes? content with
      | none => r.breach settings "result record malformed: decoding result record"
      | some record => r.concludeRecord settings work record
  else r.breach settings ("worker exited with " ++ r.ending.text)

end WorkerRemains

end JobSupervision
