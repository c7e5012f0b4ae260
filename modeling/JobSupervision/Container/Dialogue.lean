/-
# Dialogues

An operation on a container asks the world outside some questions, one after the other, and
ends with a result.  A dialogue is such an operation as a tree: at every question it shows
the container as it stands while the answer is awaited, which is also what remains if nobody
awaits the answer any longer.
-/
import JobSupervision.Container.Basic

namespace JobSupervision

/-- A question to the world outside. -/
inductive Query where
  /-- Submit the job. -/
  | submit (identity : JobIdentity)
  /-- Tell the status of a run. -/
  | poll (runId : RunId)
  /-- Stop a run. -/
  | kill (runId : RunId)
  /-- Tell which run belongs to the job. -/
  | find (identity : JobIdentity)

/-- The answers to a question. -/
abbrev Query.Answer : Query → Type
  | .submit _ => Except ContainerError RunId
  | .poll _ => Except ClusterError RemoteStatus
  | .kill _ => Except ClusterError Unit
  | .find _ => Except ClusterError (Option RunId)

/-- An operation on a container with a result. -/
inductive Dialogue (α : Type) where
  /-- The operation has ended. -/
  | done (finished : Container.Finished α)
  /-- A question is open: the container meanwhile, the events published before, the question,
  and what follows each answer. -/
  | ask (container : Container) (events : List EventPayload) (query : Query)
    (next : query.Answer → Dialogue α)

namespace Dialogue

variable {α β : Type}

/-- The dialogue with another result, which may depend on the container at the end. -/
def map (f : Container → α → β) : Dialogue α → Dialogue β
  | .done r => .done ⟨r.container, r.events, f r.container r.result⟩
  | .ask c events q next => .ask c events q fun a => map f (next a)

/-- The dialogue with some events in front. -/
def prepend (events : List EventPayload) : Dialogue α → Dialogue α
  | .done r => .done { r with events := events ++ r.events }
  | .ask c own q next => .ask c (events ++ own) q next

@[simp] theorem map_done (f : Container → α → β) (r : Container.Finished α) :
    map f (.done r) = .done ⟨r.container, r.events, f r.container r.result⟩ := rfl

@[simp] theorem map_ask (f : Container → α → β) (c : Container) (events : List EventPayload)
    (q : Query) (next : q.Answer → Dialogue α) :
    map f (.ask c events q next) = .ask c events q fun a => map f (next a) := rfl

@[simp] theorem prepend_nil (d : Dialogue α) : d.prepend [] = d := by
  cases d <;> rfl

theorem prepend_prepend (first second : List EventPayload) (d : Dialogue α) :
    (d.prepend second).prepend first = d.prepend (first ++ second) := by
  cases d <;> simp [prepend]

end Dialogue

end JobSupervision
