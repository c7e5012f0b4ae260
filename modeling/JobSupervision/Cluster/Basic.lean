/-
# Clusters

The world outside as containers see it: it takes a question, lets some time pass and answers.
Whatever a cluster is, it has a state of its own that questions and answers may change.
-/
import JobSupervision.Container.Dialogue

namespace JobSupervision

/-- The behaviour of a cluster with states in `σ`. -/
structure Cluster (σ : Type) where
  /-- Takes a question: the state afterwards, and how many milliseconds the answer takes. -/
  ask : σ → Query → σ × Nat
  /-- Answers a question that was taken before. -/
  answer : σ → (query : Query) → σ × query.Answer

/-- A cluster at some time, with the events that reached the world. -/
structure Setting (σ : Type) where
  /-- The state of the cluster. -/
  cluster : σ
  /-- The time in milliseconds. -/
  clock : Nat

/-- Holds a dialogue with a cluster from its start to its end.  The events are those of the
whole dialogue. -/
def Dialogue.hold {σ α : Type} (cluster : Cluster σ) :
    Dialogue α → Setting σ → Container.Finished α × Setting σ
  | .done r, s => (r, s)
  | .ask _ events q next, s =>
    let (taken, delay) := cluster.ask s.cluster q
    let (answered, a) := cluster.answer taken q
    let (r, s) := hold cluster (next a) ⟨answered, s.clock + delay⟩
    ({ r with events := events ++ r.events }, s)

/-- A cluster that takes whatever is asked of it at once, and forgets it. -/
def Cluster.oblivious : Cluster Unit where
  ask _ _ := ((), 0)
  answer _
    | .submit identity => ((), .ok ⟨identity.jobId.text⟩)
    | .poll _ => ((), .ok .unknown)
    | .kill _ => ((), .ok ())
    | .find _ => ((), .ok none)

/-- A cluster that gives the same answers all the time, at once, and stops every run. -/
def Cluster.steady (submission : JobIdentity → Except ContainerError RunId)
    (status : RemoteStatus) (found : Option RunId) : Cluster Unit where
  ask _ _ := ((), 0)
  answer _
    | .submit identity => ((), submission identity)
    | .poll _ => ((), .ok status)
    | .kill _ => ((), .ok ())
    | .find _ => ((), .ok found)

end JobSupervision
