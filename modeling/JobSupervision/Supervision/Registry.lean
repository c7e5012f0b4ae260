/-
# The books of a supervision

What is done at once, without waiting for anybody: new containers are entered, the supervision
is shut down, and the books are shown.
-/
import JobSupervision.Supervision.Step

namespace JobSupervision.Supervision.World

variable {σ : Type}

/-- Enters a container under the id of its job. -/
def insert (w : World σ) (container : Container) : Except RequestError (World σ × CellId) :=
  match w.lookup? container.jobId with
  | some _ => .error (.alreadyExists container.jobId)
  | none =>
    let (w, c) := w.addCell container
    .ok ({ w with registry := (container.jobId, c) :: w.registry }, c)

/-- Enters a container for a job that was not submitted yet. -/
def create (w : World σ) (identity : JobIdentity) : Except RequestError (World σ) :=
  (w.insert (.create identity)).map (·.1)

/-- Enters a container for a job that runs already, and has it polled. -/
def restore (w : World σ) (identity : JobIdentity) (runId : RunId) :
    Except RequestError (World σ) :=
  if w.shutDown then .error .shutDown
  else (w.insert (.restore identity runId)).map fun r => r.1.supervise r.2 identity.jobId

/-- Shuts the supervision down without waiting. -/
def cancel (w : World σ) : World σ := { w with shutDown := true }

/-- The ids of the jobs in the books. -/
def jobIds (w : World σ) : List JobId := w.registry.map (·.1)

/-- The inspection text of the supervision. -/
def inspect (w : World σ) (rules : Rules) : String :=
  Text.inspectRecord "ContainerRuntime"
    [("config", rules.settings.inspect), ("retry", rules.policy.inspect),
      ("container_count", toString w.registry.length),
      ("supervisor_count", toString w.supervisors.length), ("events", w.bus.inspect),
      ("shutdown_cancelled", Text.inspectBool w.shutDown)]

/-- A job that is in the books is not entered again. -/
theorem insert_of_lookup? {w : World σ} {container : Container} {c : CellId}
    (h : w.lookup? container.jobId = some c) :
    w.insert container = .error (.alreadyExists container.jobId) := by
  simp [insert, h]

/-- After a shutdown nothing is restored. -/
theorem restore_of_shutDown {w : World σ} (h : w.shutDown = true) (identity : JobIdentity)
    (runId : RunId) : w.restore identity runId = .error .shutDown := by
  simp [restore, h]

end JobSupervision.Supervision.World
