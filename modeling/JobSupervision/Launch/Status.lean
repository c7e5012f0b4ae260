/-
# The status of a launch

What a cluster that runs jobs as launches of its own reports once a launch has ended.
-/
import JobSupervision.Container.State
import JobSupervision.Launch.Execution

namespace JobSupervision

/-- The status of a launch that has ended: a value is a success, a cancelled launch was killed,
and everything else failed. -/
def RemoteStatus.ofOutcome {α : Type} (outcome : LaunchOutcome α) : RemoteStatus :=
  match outcome with
  | .ok result => if result.isSuccess then .succeeded else .failed
  | .error .cancelled => .killed
  | .error _ => .failed

end JobSupervision
