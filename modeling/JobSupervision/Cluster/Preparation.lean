/-
# Preparing scripted clusters

The orders by which a scripted cluster is told how to behave from then on, and how they are
written.
-/
import JobSupervision.Cluster.Scripted
import JobSupervision.Container.Report

namespace JobSupervision

/-- An order to a scripted cluster. -/
inductive Preparation where
  /-- Answer the next polls so, after those that are scripted already. -/
  | script (answers : List (Except ClusterError RemoteStatus))
  /-- Answer polls so when the script is used up. -/
  | default (status : RemoteStatus)
  /-- Answer search questions so. -/
  | found (runId : Option RunId)
  /-- Answer the next search questions so. -/
  | findNext (answers : List (Except ClusterError (Option RunId)))
  /-- Fail the next stop questions. -/
  | killNext (errors : List ClusterError)
  /-- Fail all stop questions. -/
  | failKills (message : String)
  /-- Fail all submissions. -/
  | failSubmissions (message : String)
  /-- Refuse the next submissions. -/
  | refuseNext (errors : List ContainerError)
  /-- Take some milliseconds for polls. -/
  | delayPolls (millis : Nat)
  /-- Take some milliseconds for stop questions. -/
  | delayKills (millis : Nat)
  /-- Take some milliseconds for search questions. -/
  | delayFinds (millis : Nat)

namespace Preparation

/-- Carries out an order. -/
def apply (s : ScriptedCluster) : Preparation → ScriptedCluster
  | .script answers => { s with script := s.script ++ answers }
  | .default status => { s with defaultStatus := status }
  | .found runId => { s with found := runId }
  | .findNext answers => { s with findAnswers := s.findAnswers ++ answers }
  | .killNext errors => { s with killErrors := s.killErrors ++ errors }
  | .failKills message => { s with killFailure := some message }
  | .failSubmissions message => { s with submitFailure := some message }
  | .refuseNext errors => { s with submitErrors := s.submitErrors ++ errors }
  | .delayPolls millis => { s with pollDelay := millis }
  | .delayKills millis => { s with killDelay := millis }
  | .delayFinds millis => { s with findDelay := millis }

/-- The failure that an answer holds in place of a proper one. -/
def failure? (j : Json) : Option ClusterError :=
  ClusterError.transient <$> j.required "transient" Json.text?

/-- An answer to a poll. -/
def pollAnswer? (j : Json) : Option (Except ClusterError RemoteStatus) :=
  match j with
  | .str _ => Except.ok <$> RemoteStatus.ofValue? j
  | _ => Except.error <$> failure? j

/-- An answer to a search question; `null` stands for no run. -/
def findAnswer? (j : Json) : Option (Except ClusterError (Option RunId)) :=
  match j with
  | .null => some (.ok none)
  | .str s => some (.ok (some ⟨s⟩))
  | _ => Except.error <$> failure? j

/-- The order that a record describes, if it describes one. -/
def ofDescription? (j : Json) : Option Preparation := do
  let message := j.required "message" Json.text?
  match ← j.required "do" Json.text? with
  | "script" => return .script (← j.required "polls" (Json.list? pollAnswer?))
  | "default" => return .default (← j.required "status" RemoteStatus.ofValue?)
  | "found" => return .found (← j.optional "run" RunId.ofValue?)
  | "find_next" => return .findNext (← j.required "answers" (Json.list? findAnswer?))
  | "kill_next" => return .killNext ((← j.required "errors" Json.texts?).map .transient)
  | "fail_kills" => return .failKills (← message)
  | "fail_submit" => return .failSubmissions (← message)
  | "submit_next" =>
    return .refuseNext (← j.required "errors" (Json.list? ContainerError.ofDescription?))
  | "delay" =>
    let millis ← j.required "ms" Json.natural?
    match ← j.required "call" Json.text? with
    | "poll" => return .delayPolls millis
    | "kill" => return .delayKills millis
    | "find" => return .delayFinds millis
    | _ => none
  | _ => none

end Preparation

end JobSupervision
