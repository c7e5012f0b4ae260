/-
# Actions carried out to their end

An owner who uses a container alone may wait for every answer.  Each of his actions is then a
dialogue held with a cluster, and its account tells the container before and after, what was
published, the result, and which questions were answered how.  Telemetry counts a change of
state and a recovery attempt where the event is published.
-/
import JobSupervision.Cluster.Basic
import JobSupervision.Metrics
import JobSupervision.Supervision.Possession

namespace JobSupervision

variable {σ : Type}

/-- A question with the answer that was given to it. -/
abbrev Answered := (query : Query) × query.Answer

/-- The run that was stopped with an answer. -/
def Answered.stopped? : Answered → Option RunId
  | ⟨.kill r, .ok ()⟩ => some r
  | _ => none

/-- The cluster that keeps in mind what it answered, oldest first. -/
def Cluster.minding (cluster : Cluster σ) : Cluster (σ × List Answered) where
  ask s q :=
    let (taken, delay) := cluster.ask s.1 q
    ((taken, s.2), delay)
  answer s q :=
    let (state, a) := cluster.answer s.1 q
    ((state, s.2 ++ [⟨q, a⟩]), a)

/-- Counts what an event tells, if it is a change of state or a recovery attempt. -/
def Metrics.note (m : Metrics) : EventPayload → Metrics
  | .stateChanged before after _ => m.transition before.name after.name
  | .recoveryAttempt .. => m.recovery
  | .submitted _ | .stopped _ => m

/-- An action that was carried out to its end. -/
structure Account where
  /-- The container before. -/
  before : Container
  /-- What was done. -/
  action : OwnerAction
  /-- The questions with their answers, oldest first. -/
  answers : List Answered
  /-- The container afterwards, the events, and the result. -/
  finished : Container.Finished (Except ContainerError ContainerState)

namespace Account

/-- The container afterwards. -/
def after (a : Account) : Container := a.finished.container

/-- The events that were published, oldest first. -/
def events (a : Account) : List EventPayload := a.finished.events

/-- The result. -/
def result (a : Account) : Except ContainerError ContainerState := a.finished.result

/-- The counts after the action. -/
def count (a : Account) (m : Metrics) : Metrics := a.events.foldl Metrics.note m

end Account

/-- Carries an action out with a cluster. -/
def OwnerAction.carryOut (cluster : Cluster σ) (c : Container) (s : Setting σ)
    (action : OwnerAction) :
    Account × Setting σ :=
  let (finished, s) := (action.operation c).hold cluster.minding ⟨(s.cluster, []), s.clock⟩
  (⟨c, action, s.cluster.2, finished⟩, ⟨s.cluster.1, s.clock⟩)

/-- Carries some actions out, one after the other. -/
def Container.accounts (cluster : Cluster σ) (c : Container) (s : Setting σ) :
    List OwnerAction → List Account
  | [] => []
  | action :: rest =>
    let (a, s) := action.carryOut cluster c s
    a :: a.after.accounts cluster s rest

/-- The runs that were stopped in some actions, one for each time. -/
def stoppedRuns (accounts : List Account) : List RunId :=
  (accounts.flatMap Account.answers).filterMap Answered.stopped?

/-- A cluster that keeps its answers in mind gives the same ones. -/
theorem Dialogue.hold_minding {α : Type} (cluster : Cluster σ) (d : Dialogue α)
    (s : Setting (σ × List Answered)) :
    (d.hold cluster.minding s).1 = (d.hold cluster ⟨s.cluster.1, s.clock⟩).1 ∧
      (⟨(d.hold cluster.minding s).2.cluster.1, (d.hold cluster.minding s).2.clock⟩ : Setting σ) =
        (d.hold cluster ⟨s.cluster.1, s.clock⟩).2 := by
  induction d generalizing s with
  | done r => exact ⟨rfl, rfl⟩
  | ask c events q next ih =>
    obtain ⟨hfinished, hsetting⟩ := ih (cluster.answer (cluster.ask s.cluster.1 q).1 q).2
      ⟨(cluster.minding.answer (cluster.minding.ask s.cluster q).1 q).1,
        s.clock + (cluster.ask s.cluster.1 q).2⟩
    refine ⟨?_, hsetting⟩
    exact congrArg (fun r : Container.Finished α => { r with events := events ++ r.events })
      hfinished

/-- An action that is carried out is the operation held with the cluster. -/
theorem OwnerAction.carryOut_eq (cluster : Cluster σ) (c : Container) (s : Setting σ)
    (action : OwnerAction) :
    ((action.carryOut cluster c s).1.finished, (action.carryOut cluster c s).2) =
      (action.operation c).hold cluster s := by
  obtain ⟨hfinished, hsetting⟩ :=
    (action.operation c).hold_minding cluster ⟨(s.cluster, []), s.clock⟩
  exact Prod.ext hfinished hsetting

end JobSupervision
