/-
# Operations on containers

Running a job, polling it, recovering it after an inconclusive answer, and stopping it, each
as a dialogue with the cluster.
-/
import JobSupervision.Container.Dialogue

namespace JobSupervision.Container

/-- The dialogue of an operation whose result is the new state, or an error. -/
abbrev Operation := Dialogue (Except ContainerError ContainerState)

/-- An operation that leaves the container as it is. -/
def stay (c : Container) : Operation := .done ⟨c, [], .ok c.state⟩

/-- Submits the job.  A job that was submitted before is left as it is. -/
def run (c : Container) : Operation :=
  if c.state = .created then
    let submitting := c.become .submitting
    .ask submitting.container submitting.events (.submit c.identity) fun
      | .ok runId =>
        let accepted := { submitting.container with runId := some runId }
        (Dialogue.done (accepted.become .running)).prepend [.submitted runId]
      | .error e =>
        let refused := { submitting.container with lastError := some e.message }
        let failed := refused.become .failed
        match failed.result with
        | .ok _ => .done { failed with result := .error e }
        | .error _ => .done failed
  else stay c

/-- What is noted when the cluster does not know a run. -/
def unknownRun (runId : RunId) : String := "cluster reported run " ++ runId.text ++ " as unknown"

/-- What is noted when a run failed. -/
def failedRun (runId : RunId) : String := "run " ++ runId.text ++ " failed on the cluster"

/-- What is noted when the cluster has no run for the job. -/
def noRun : String := "cluster has no run for this job"

/-- Ends an attempt whose questions were not answered clearly. -/
def giveUpAttempt (c : Container) : Operation := .done ⟨c, [], .error c.inconclusive⟩

/-- Takes the status of a run during recovery.  A clear status settles the container; after
any other answer the attempt goes on. -/
def settle (c : Container) (runId : RunId) (answer : Except ClusterError RemoteStatus)
    (goOn : Container → Operation) : Operation :=
  match answer with
  | .ok .running =>
    .done ({ c with recoveryAttempts := 0, lastError := none }.become .running)
  | .ok .succeeded => .done (c.become .succeeded)
  | .ok .failed => .done (c.become .failed)
  | .ok .killed => .done (c.become .killed)
  | .ok .unknown => goOn { c with lastError := some (unknownRun runId) }
  | .error e => goOn { c with lastError := some e.message }

/-- Asks which run belongs to the job, and for the status of a run that is new. -/
def search (c : Container) : Operation :=
  .ask c [] (.find c.identity) fun
    | .ok (some found) =>
      if c.runId = some found then giveUpAttempt c
      else
        let adopted := { c with runId := some found }
        .ask adopted [] (.poll found) fun answer => settle adopted found answer giveUpAttempt
    | .ok none => giveUpAttempt { c with lastError := some noRun }
    | .error e => giveUpAttempt { c with lastError := some e.message }

/-- One recovery attempt on a container that is recovering. -/
def attempt (c : Container) : Operation :=
  let n := RetryPolicy.nextAttempt c.recoveryAttempts
  let started := { c with recoveryAttempts := n }
  let told : List EventPayload := [.recoveryAttempt n c.runId]
  match c.runId with
  | some runId =>
    .ask started told (.poll runId) fun answer => settle started runId answer search
  | none => (search started).prepend told

/-- Recovers a container that is running or recovering; any other one is left as it is. -/
def recover (c : Container) : Operation :=
  match c.state with
  | .recovering => attempt c
  | .running =>
    let recovering := c.become .recovering
    (attempt recovering.container).prepend recovering.events
  | _ => stay c

/-- Enters recovery for a reason; the operation ends with the inconclusive query. -/
def enterRecovering (c : Container) (reason : String) : Operation :=
  let recovering := { c with lastError := some reason }.become .recovering
  match recovering.result with
  | .ok _ => .done { recovering with result := .error recovering.container.inconclusive }
  | .error _ => .done recovering

/-- Asks the cluster for the status of the run.  A container that is recovering makes one
recovery attempt; one that has ended or was not submitted is left as it is. -/
def poll (c : Container) : Operation :=
  match c.state with
  | .recovering => recover c
  | .running =>
    match c.runId with
    | none => enterRecovering c "no run id recorded"
    | some runId =>
      .ask c [] (.poll runId) fun
        | .ok .running => stay c
        | .ok .succeeded => .done (c.become .succeeded)
        | .ok .failed =>
          .done ({ c with lastError := some (failedRun runId) }.become .failed)
        | .ok .killed => .done (c.become .killed)
        | .ok .unknown => enterRecovering c (unknownRun runId)
        | .error e => enterRecovering c e.message
  | _ => stay c

/-- Ends a container whose run was stopped. -/
def endStopped (c : Container) : Operation :=
  (Dialogue.done (c.become .killed)).prepend [.stopped c.runId]

/-- Stops the run.  A container that has ended is left as it is; one without a run cannot be
stopped. -/
def stop (c : Container) : Operation :=
  match c.state with
  | .running | .recovering =>
    match c.runId with
    | none => endStopped c
    | some runId =>
      .ask c [] (.kill runId) fun
        | .ok () => endStopped c
        | .error e => .done ⟨c, [], .error (.kill c.jobId runId e.message)⟩
  | state => if state.isTerminal then stay c else .done ⟨c, [], .error (c.invalid .killed)⟩

theorem run_of_ne_created {c : Container} (h : c.state ≠ .created) : run c = stay c := by
  simp [run, h]

/-- Nothing is asked for a container that has ended. -/
theorem poll_of_isTerminal {c : Container} (h : c.state.isTerminal = true) : poll c = stay c := by
  unfold poll
  cases hs : c.state <;> simp_all [ContainerState.isTerminal]

theorem recover_of_isTerminal {c : Container} (h : c.state.isTerminal = true) :
    recover c = stay c := by
  unfold recover
  cases hs : c.state <;> simp_all [ContainerState.isTerminal]

theorem stop_of_isTerminal {c : Container} (h : c.state.isTerminal = true) : stop c = stay c := by
  unfold stop
  cases hs : c.state <;> simp_all [ContainerState.isTerminal]

end JobSupervision.Container
