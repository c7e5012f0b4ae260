/-
# Launch handles

Whoever launched a worker holds a handle to it.  Three parties move on their own: the worker
ends at some time; a watcher looks at the worker and at the wish to cancel and settles the
outcome; and the holder of the handle cancels, looks and takes the outcome.  The watcher looks
at the worker first, so an end that it can see counts more than a wish to cancel.
-/
import JobSupervision.Launch.Execution

namespace JobSupervision

/-- A launch as its handle sees it. -/
structure LaunchHandle (α : Type) where
  /-- What the end of the worker comes to, once it has ended. -/
  ended : Option (LaunchOutcome α) := none
  /-- Whether the launch is to be cancelled. -/
  cancelling : Bool := false
  /-- The outcome that the watcher settled. -/
  settled : Option (LaunchOutcome α) := none
  /-- Whether the outcome was taken. -/
  taken : Bool := false

namespace LaunchHandle

variable {α : Type}

/-- The handle of a worker that was just started. -/
def fresh : LaunchHandle α := {}

/-- The worker ends.  A worker ends once, and one that was stopped has ended. -/
def finish (h : LaunchHandle α) (outcome : LaunchOutcome α) : LaunchHandle α :=
  if h.ended.isSome || h.settled.isSome then h else { h with ended := some outcome }

/-- The watcher looks at the launch. -/
def watch (h : LaunchHandle α) : LaunchHandle α :=
  match h.settled, h.ended with
  | some _, _ => h
  | none, some outcome => { h with settled := some outcome }
  | none, none => if h.cancelling then { h with settled := some (.error .cancelled) } else h

/-- The holder wants the worker to be stopped. -/
def cancel (h : LaunchHandle α) : LaunchHandle α := { h with cancelling := true }

/-- Whether there is nothing to wait for. -/
def isFinished (h : LaunchHandle α) : Bool := h.taken || h.settled.isSome

/-- The answer to whoever comes for an outcome that was taken before. -/
def alreadyTaken : LaunchOutcome α := .error (.plain "launch outcome already taken")

/-- The answer to a holder who waits, once there is nothing to wait for. -/
def take? (h : LaunchHandle α) : Option (LaunchOutcome α × LaunchHandle α) :=
  if h.taken then some (alreadyTaken, h)
  else h.settled.map fun outcome => (outcome, { h with taken := true })

/-- The answer to a holder whose time of waiting is over. -/
def takeWithin (h : LaunchHandle α) (limit : Duration) : LaunchOutcome α × LaunchHandle α :=
  h.take?.getD (.error (.timedOut limit), h)

/-- An outcome is there exactly when the handle is finished. -/
theorem isSome_take? (h : LaunchHandle α) : h.take?.isSome = h.isFinished := by
  unfold take? isFinished
  cases h.taken <;> simp

/-- What the watcher settled stays. -/
theorem watch_of_settled {h : LaunchHandle α} {outcome : LaunchOutcome α}
    (hs : h.settled = some outcome) : h.watch = h := by
  unfold watch
  split <;> simp_all

end LaunchHandle

end JobSupervision
