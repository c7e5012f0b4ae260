/-
# Errors of clusters and containers

What a cluster refuses or cannot tell, and why an operation on a container fails.
-/
import JobSupervision.Container.State
import JobSupervision.Job
import JobSupervision.Launch.Error

namespace JobSupervision

/-- The refusal of a cluster. -/
inductive ClusterError where
  /-- The job is not accepted. -/
  | submission (message : String)
  /-- The question cannot be answered now. -/
  | transient (message : String)
deriving DecidableEq, Repr

namespace ClusterError

/-- The text of an error. -/
def message : ClusterError → String
  | .submission m => "cluster rejected submission: " ++ m
  | .transient m => "cluster query failed: " ++ m

end ClusterError

/-- Why an operation on a container fails. -/
inductive ContainerError where
  /-- The artifact of the job could not be built. -/
  | build (jobId : JobId) (cause : LaunchError)
  /-- The cluster did not accept the job. -/
  | submission (jobId : JobId) (message : String)
  /-- The cluster gave no clear answer. -/
  | transientQuery (jobId : JobId) (state : ContainerState) (runId : Option RunId)
      (message : String)
  /-- The state of the container does not allow the change. -/
  | invalidTransition (jobId : JobId) (current next : ContainerState)
  /-- No recovery attempt is left. -/
  | recoveryExhausted (jobId : JobId) (runId : Option RunId) (attempts : UInt16)
  /-- The run could not be stopped. -/
  | kill (jobId : JobId) (runId : RunId) (message : String)
deriving DecidableEq, Repr

namespace ContainerError

/-- Whether trying again may help. -/
def isTransient : ContainerError → Bool
  | .transientQuery .. => true
  | _ => false

/-- The text of an error. -/
def message : ContainerError → String
  | .build job cause => "job " ++ job.text ++ ": artifact build failed: " ++ cause.message
  | .submission job m => "job " ++ job.text ++ ": submission rejected: " ++ m
  | .transientQuery job state run m =>
    "job " ++ job.text ++ ": transient query failure in state " ++ state.name ++ " (run " ++
      RunId.inspectOption run ++ "): " ++ m
  | .invalidTransition job current next =>
    "job " ++ job.text ++ ": invalid transition " ++ current.name ++ " -> " ++ next.name
  | .recoveryExhausted job run attempts =>
    "job " ++ job.text ++ ": recovery gave up after " ++ toString attempts.toNat ++
      " attempts (last run " ++ RunId.inspectOption run ++ ")"
  | .kill job run m => "job " ++ job.text ++ ": kill of run " ++ run.text ++ " failed: " ++ m

end ContainerError

end JobSupervision
