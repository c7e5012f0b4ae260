/-
# Containers

A container holds one job on its way through a cluster: the state of the job, the run it is
known by, the last error, and how often recovery was tried since the job last ran well.
-/
import JobSupervision.Container.Error
import JobSupervision.Container.Event
import JobSupervision.Container.Retry

namespace JobSupervision

/-- A job on its way through a cluster. -/
structure Container where
  /-- What the job is. -/
  identity : JobIdentity
  /-- The state of the job. -/
  state : ContainerState
  /-- The run that the job is known by. -/
  runId : Option RunId
  /-- The last error. -/
  lastError : Option String
  /-- How many recovery attempts were started since the job last ran well. -/
  recoveryAttempts : UInt16

/-- What a container shows of itself. -/
structure Snapshot where
  /-- The id of the job. -/
  jobId : JobId
  /-- The state of the job. -/
  state : ContainerState
  /-- The run that the job is known by. -/
  runId : Option RunId
  /-- The last error. -/
  lastError : Option String
  /-- How many recovery attempts were started since the job last ran well. -/
  recoveryAttempts : UInt16
deriving DecidableEq, Repr

/-- A snapshot is encoded by its fields. -/
def Snapshot.encode (s : Snapshot) : Json :=
  .obj [("job_id", s.jobId.encode), ("state", s.state.encode),
    ("run_id", Json.option RunId.encode s.runId), ("last_error", Json.option Json.str s.lastError),
    ("recovery_attempts", .nat s.recoveryAttempts.toNat)]

namespace Container

/-- A container for a job that was not submitted yet. -/
def create (identity : JobIdentity) : Container := ⟨identity, .created, none, none, 0⟩

/-- A container for a job that runs already. -/
def restore (identity : JobIdentity) (runId : RunId) : Container :=
  ⟨identity, .running, some runId, none, 0⟩

/-- The id of the job. -/
def jobId (c : Container) : JobId := c.identity.jobId

/-- What a container shows of itself. -/
def snapshot (c : Container) : Snapshot :=
  ⟨c.jobId, c.state, c.runId, c.lastError, c.recoveryAttempts⟩

/-- The error of a change that the state does not allow. -/
def invalid (c : Container) (next : ContainerState) : ContainerError :=
  .invalidTransition c.jobId c.state next

/-- The error of an inconclusive query. -/
def inconclusive (c : Container) : ContainerError :=
  .transientQuery c.jobId c.state c.runId (c.lastError.getD "")

/-- What a finished operation leaves: the container, the events it published, and its
result. -/
structure Finished (α : Type) where
  /-- The container afterwards. -/
  container : Container
  /-- The events, oldest first. -/
  events : List EventPayload
  /-- The result. -/
  result : α

/-- Changes the state, if the state allows it, and tells so. -/
def become (c : Container) (next : ContainerState) :
    Finished (Except ContainerError ContainerState) :=
  if c.state.canBecome next then
    ⟨{ c with state := next }, [.stateChanged c.state next c.runId], .ok next⟩
  else ⟨c, [], .error (c.invalid next)⟩

/-- Gives the job up for a reason. -/
def fail (c : Container) (reason : String) : Finished (Except ContainerError ContainerState) :=
  let f := c.become .failed
  match f.result with
  | .ok _ => { f with container := { f.container with lastError := some reason } }
  | .error _ => f

/-- The inspection text; `attached` tells whether the container publishes its events. -/
def inspect (c : Container) (attached : Bool) : String :=
  Text.inspectRecord "JobContainer"
    [("job_id", c.jobId.inspect), ("run_id", RunId.inspectOption c.runId),
      ("state", c.state.inspect), ("last_error", Text.inspectOption (c.lastError.map Text.quote)),
      ("recovery_attempts", toString c.recoveryAttempts.toNat),
      ("events_set", Text.inspectBool attached)]

/-- A change that is not allowed leaves everything as it was. -/
theorem become_of_not_canBecome {c : Container} {next : ContainerState}
    (h : c.state.canBecome next = false) :
    c.become next = ⟨c, [], .error (c.invalid next)⟩ := by
  simp [become, h]

/-- A change that is allowed is made and told. -/
theorem become_of_canBecome {c : Container} {next : ContainerState}
    (h : c.state.canBecome next = true) :
    c.become next =
      ⟨{ c with state := next }, [.stateChanged c.state next c.runId], .ok next⟩ := by
  simp [become, h]

end Container

end JobSupervision
