/-
# Events of a container

What a container tells the world about its life.
-/
import JobSupervision.Container.State
import JobSupervision.Job

namespace JobSupervision

/-- What happened to a container. -/
inductive EventPayload where
  /-- The cluster accepted the job under an id. -/
  | submitted (runId : RunId)
  /-- The state changed. -/
  | stateChanged (before after : ContainerState) (runId : Option RunId)
  /-- A recovery attempt started. -/
  | recoveryAttempt (attempt : UInt16) (runId : Option RunId)
  /-- The run was stopped. -/
  | stopped (runId : Option RunId)
deriving DecidableEq, Repr

namespace EventPayload

/-- The run id of an event that may have none. -/
def encodeRun (runId : Option RunId) : Json := Json.option RunId.encode runId

/-- An event is encoded by its kind and its fields. -/
def encode : EventPayload → Json
  | .submitted run => .obj [("type", .str "submitted"), ("run_id", run.encode)]
  | .stateChanged before after run =>
    .obj [("type", .str "state_changed"), ("from", before.encode), ("to", after.encode),
      ("run_id", encodeRun run)]
  | .recoveryAttempt attempt run =>
    .obj [("type", .str "recovery_attempt"), ("attempt", .nat attempt.toNat),
      ("run_id", encodeRun run)]
  | .stopped run => .obj [("type", .str "stopped"), ("run_id", encodeRun run)]

/-- The event that a document holds. -/
def decode? (d : Json.Doc) : Option EventPayload := do
  let (kind, rest) ← d.tagged? "type"
  match kind with
  | "submitted" => do
    let fields ← rest.fields? ["run_id"]
    let run ← fields.required "run_id" RunId.decode?
    return .submitted run
  | "state_changed" => do
    let fields ← rest.fields? ["from", "to", "run_id"]
    let before ← fields.required "from" (ContainerState.decode? true)
    let after ← fields.required "to" (ContainerState.decode? true)
    let run ← fields.optional "run_id" RunId.decode?
    return .stateChanged before after run
  | "recovery_attempt" => do
    let fields ← rest.fields? ["attempt", "run_id"]
    let attempt ← fields.required "attempt" Json.Doc.uint16?
    let run ← fields.optional "run_id" RunId.decode?
    return .recoveryAttempt attempt run
  | "stopped" => do
    let fields ← rest.fields? ["run_id"]
    let run ← fields.optional "run_id" RunId.decode?
    return .stopped run
  | _ => none

end EventPayload

/-- An event with the job it belongs to and the version of its form. -/
structure ContainerEvent where
  /-- The version of the form of events. -/
  version : Nat
  /-- The job. -/
  jobId : JobId
  /-- What happened. -/
  payload : EventPayload
deriving DecidableEq, Repr

namespace ContainerEvent

/-- The version of the form of events. -/
def currentVersion : Nat := 1

/-- An event of a job. -/
def of (jobId : JobId) (payload : EventPayload) : ContainerEvent := ⟨currentVersion, jobId, payload⟩

end ContainerEvent

end JobSupervision
