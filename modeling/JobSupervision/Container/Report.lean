/-
# Reports of cluster and container errors

The errors of clusters and containers as values of the data format, as reports and from
descriptions.
-/
import JobSupervision.Container.Error
import JobSupervision.Launch.Report

namespace JobSupervision

namespace ClusterError

/-- The kind of an error. -/
def kind : ClusterError → String
  | .submission _ => "ClusterSubmission"
  | .transient _ => "ClusterTransient"

/-- The report of an error. -/
def report (e : ClusterError) : Json := errorReport e.kind e.message []

/-- The error of a description. -/
def ofDescription? (j : Json) : Option ClusterError := do
  let message ← j.required "message" Json.text?
  match ← j.required "kind" Json.text? with
  | "Submission" => return .submission message
  | "Transient" => return .transient message
  | _ => none

end ClusterError

/-- The id of a run in a value. -/
def RunId.ofValue? (j : Json) : Option RunId := j.text?.map RunId.mk

/-- The state that a value names. -/
def ContainerState.ofValue? (j : Json) : Option ContainerState := j.text?.bind ofName?

/-- The status that a value names. -/
def RemoteStatus.ofValue? (j : Json) : Option RemoteStatus := j.text?.bind ofName?

namespace ContainerError

/-- The kind of an error. -/
def kind : ContainerError → String
  | .build .. => "Build"
  | .submission .. => "Submission"
  | .transientQuery .. => "TransientQuery"
  | .invalidTransition .. => "InvalidTransition"
  | .recoveryExhausted .. => "RecoveryExhausted"
  | .kill .. => "Kill"

/-- The report of an error; that of a failed build holds the report of what failed. -/
def report (e : ContainerError) : Json :=
  errorReport e.kind e.message
    (match e with
    | .build _ cause => [("source", cause.report)]
    | _ => [])

/-- The error of a description. -/
def ofDescription? (j : Json) : Option ContainerError := do
  let job : JobId := ⟨← j.required "job_id" Json.text?⟩
  let message := j.required "message" Json.text?
  let run := j.optional "run_id" RunId.ofValue?
  match ← j.required "kind" Json.text? with
  | "Build" => return .build job (← j.required "source" LaunchError.ofDescription?)
  | "Submission" => return .submission job (← message)
  | "TransientQuery" =>
    return .transientQuery job (← j.required "state" ContainerState.ofValue?) (← run) (← message)
  | "InvalidTransition" =>
    return .invalidTransition job (← j.required "from" ContainerState.ofValue?)
      (← j.required "to" ContainerState.ofValue?)
  | "RecoveryExhausted" =>
    return .recoveryExhausted job (← run) (.ofNat (← j.required "attempts" Json.natural?))
  | "Kill" => return .kill job (← j.required "run_id" RunId.ofValue?) (← message)
  | _ => none

end ContainerError

end JobSupervision
