/-
# Calls on local clusters

Several callers use a local cluster at a time, and a call may stop halfway: a submission waits for
its launch, and a poll that has taken an outcome waits before it notes the status.  In between other
calls go on, time passes, and the machine changes.  Whatever a call tells its caller, and what it
does to the launches of the cluster, is told by a report.
-/
import JobSupervision.Cluster.Local

namespace JobSupervision.LocalCluster

/-- A call that stopped halfway. -/
inductive Call (W V : Type) where
  /-- A worker is to be launched for a job. -/
  | launching (jobId : JobId) (configuration : LaunchConfiguration W)
  /-- The status of a run whose outcome was taken is to be noted. -/
  | collecting (id : RunId) (outcome : LaunchOutcome V)

/-- What becomes known of the calls on a cluster. -/
inductive Report (V : Type) where
  /-- A job was refused. -/
  | refused (error : ClusterError)
  /-- The launch of a job was entered under an id, which its submission returned. -/
  | submitted (jobId : JobId) (launch : Launched V) (id : RunId)
  /-- The outcome of a run was taken from its handle. -/
  | took (id : RunId) (outcome : LaunchOutcome V)
  /-- A poll of a run returned a status. -/
  | polled (id : RunId) (status : RemoteStatus)
  /-- A wish to stop a run was answered. -/
  | killed (id : RunId) (answer : Except ClusterError Unit)
  /-- A search for the run of a job was answered. -/
  | found (jobId : JobId) (answer : Option RunId)

/-- What a submission returned to whoever submitted a job. -/
def Report.submission? {V : Type} : Report V → Option (Except ClusterError RunId)
  | .refused error => some (.error error)
  | .submitted _ _ id => some (.ok id)
  | _ => none

/-- A cluster on its machine and the calls that stopped halfway. -/
structure Scene (W V : Type) where
  /-- The machine. -/
  machine : Machine
  /-- The cluster. -/
  cluster : LocalCluster W V
  /-- The calls, oldest first. -/
  calls : List (Call W V) := []

/-- What may happen next. -/
inductive Action where
  /-- Somebody submits a job. -/
  | submit (artifact : JobArtifact) (identity : JobIdentity)
  /-- Somebody polls a run. -/
  | poll (id : RunId)
  /-- Somebody wants a run to be stopped. -/
  | kill (id : RunId)
  /-- Somebody looks for the run of a job. -/
  | find (jobId : JobId)
  /-- A call that stopped halfway goes on. -/
  | proceed (n : Nat)
  /-- Whoever made a call drops it where it stopped. -/
  | drop (n : Nat)
  /-- Some milliseconds pass. -/
  | pass (millis : Nat)
  /-- Something else happens on the machine. -/
  | shift (machine : Machine)

variable {W V : Type}

/-- A look that finds a status changes nothing. -/
theorem eq_of_look_status {c c' : LocalCluster W V} {now : Nat} {id : RunId}
    {status : RemoteStatus} (h : c.look now id = (.status status, c')) : c' = c := by
  rw [look] at h
  split at h
  · cases h; rfl
  · cases h; rfl
  · cases h; rfl
  · split at h
    · cases h; rfl
    · cases h

namespace Scene

/-- Somebody submits a job.  Its launch is described at once. -/
def submit (s : Scene W V) (artifact : JobArtifact) (identity : JobIdentity) :
    Scene W V × Option (Report V) :=
  match s.cluster.configuration artifact identity with
  | .error e => (s, some (.refused (.submission e.message)))
  | .ok configuration =>
    ({ s with calls := s.calls ++ [.launching identity.jobId configuration] }, none)

/-- A job is launched and entered. -/
def launch (s : Scene W V) (jobId : JobId) (configuration : LaunchConfiguration W) :
    Scene W V × Option (Report V) :=
  let launched := s.machine.launch s.cluster.settings s.cluster.work configuration
  match launched.2 with
  | .error e => ({ s with machine := launched.1 }, some (.refused (.submission e.message)))
  | .ok launch =>
    let entered := s.cluster.enter jobId launch
    ({ s with machine := launched.1, cluster := entered.1 },
      some (.submitted jobId launch entered.2))

/-- Somebody polls a run.  An outcome that is there is taken at once. -/
def poll (s : Scene W V) (id : RunId) : Scene W V × Option (Report V) :=
  let looked := s.cluster.look s.machine.clock id
  match looked.1 with
  | .status status => (s, some (.polled id status))
  | .outcome outcome =>
    ({ s with cluster := looked.2, calls := s.calls ++ [.collecting id outcome] },
      some (.took id outcome))

/-- The status of a run is noted. -/
def settle (s : Scene W V) (id : RunId) (outcome : LaunchOutcome V) :
    Scene W V × Option (Report V) :=
  let settled := s.cluster.settle id outcome
  ({ s with cluster := settled.2 }, some (.polled id settled.1))

/-- A call that stopped halfway goes on to its end. -/
def proceed (s : Scene W V) (n : Nat) : Scene W V × Option (Report V) :=
  let rest := { s with calls := s.calls.eraseIdx n }
  match s.calls[n]? with
  | none => (s, none)
  | some (.launching jobId configuration) => rest.launch jobId configuration
  | some (.collecting id outcome) => rest.settle id outcome

/-- What follows on an action, and what becomes known. -/
def turn (s : Scene W V) : Action → Scene W V × Option (Report V)
  | .submit artifact identity => s.submit artifact identity
  | .poll id => s.poll id
  | .kill id =>
    let answered := s.cluster.kill id
    ({ s with cluster := answered.2 }, some (.killed id answered.1))
  | .find jobId => (s, some (.found jobId (s.cluster.find jobId)))
  | .proceed n => s.proceed n
  | .drop n => ({ s with calls := s.calls.eraseIdx n }, none)
  | .pass millis =>
    let later := s.machine.clock + millis
    ({ s with
        machine := { s.machine with clock := later }
        cluster := s.cluster.passTo s.machine.clock later }, none)
  | .shift machine => ({ s with machine := { machine with clock := s.machine.clock } }, none)

/-- The scene after some actions. -/
def play (s : Scene W V) (actions : List Action) : Scene W V :=
  actions.foldl (fun s a => (s.turn a).1) s

/-- What becomes known in the course of some actions. -/
def history (s : Scene W V) : List Action → List (Report V)
  | [] => []
  | a :: rest => (s.turn a).2.toList ++ (s.turn a).1.history rest

theorem turn_proceed_length (s : Scene W V) (call : Call W V) :
    ({ s with calls := s.calls ++ [call] } : Scene W V).turn (.proceed s.calls.length) =
      match call with
      | .launching jobId configuration => s.launch jobId configuration
      | .collecting id outcome => s.settle id outcome := by
  have hrest : (s.calls ++ [call]).eraseIdx s.calls.length = s.calls := by
    simp [List.eraseIdx_append_of_length_le]
  simp only [turn, proceed, List.getElem?_concat_length, hrest]
  cases call with
  | launching jobId configuration => rfl
  | collecting id outcome => rfl

/-- A submission that nobody interferes with comes to the same as one that does not stop. -/
theorem submit_eq_turn (s : Scene W V) {artifact : JobArtifact} {identity : JobIdentity}
    {configuration : LaunchConfiguration W}
    (h : s.cluster.configuration artifact identity = .ok configuration) :
    let done := s.cluster.submit s.machine artifact identity
    let after := (s.turn (.submit artifact identity)).1.turn (.proceed s.calls.length)
    after.1 = { s with machine := done.1, cluster := done.2.1 } ∧
      after.2.bind Report.submission? = some done.2.2 := by
  intro done after
  have hafter : after = s.launch identity.jobId configuration := by
    show (s.submit artifact identity).1.turn (.proceed s.calls.length) = _
    rw [submit, h]
    exact s.turn_proceed_length (.launching identity.jobId configuration)
  simp only [hafter, done, launch, LocalCluster.submit, h]
  cases (s.machine.launch s.cluster.settings s.cluster.work configuration).2 with
  | error e => exact ⟨rfl, rfl⟩
  | ok launched => exact ⟨rfl, rfl⟩

/-- A poll that nobody interferes with comes to the same as one that does not stop. -/
theorem poll_eq_turn (s : Scene W V) (id : RunId) :
    let done := s.cluster.poll s.machine.clock id
    let after := (s.turn (.poll id)).1.turn (.proceed s.calls.length)
    s.turn (.poll id) = ({ s with cluster := done.2 }, some (.polled id done.1)) ∨
      after = ({ s with cluster := done.2 }, some (.polled id done.1)) := by
  intro done after
  simp only [done, after, turn, poll, LocalCluster.poll]
  cases hlook : s.cluster.look s.machine.clock id with
  | mk look cluster =>
    cases look with
    | status status =>
      obtain rfl := eq_of_look_status hlook
      exact .inl rfl
    | outcome outcome =>
      exact .inr (turn_proceed_length { s with cluster := cluster } (.collecting id outcome))

end Scene

end JobSupervision.LocalCluster
