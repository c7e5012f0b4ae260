/-
# Scripted clusters

A cluster for trying things out.  It answers polls from a script and then with a default
status, hands out run ids in order, and remembers what it was asked.  Single answers to stop
and search questions and single refusals of submissions can be queued in front.
-/
import JobSupervision.Cluster.Basic

namespace JobSupervision

/-- How submissions are answered. -/
inductive SubmitMode where
  /-- A run id is handed out after some milliseconds, unless submissions fail. -/
  | allocate (delayMs : Nat)
  /-- The run id is made from the id of the job. -/
  | named
deriving DecidableEq, Repr

/-- The state of a scripted cluster. -/
structure ScriptedCluster where
  /-- How submissions are answered. -/
  submitMode : SubmitMode
  /-- The number of the last run id handed out. -/
  lastRun : Nat := 0
  /-- How many submissions were taken. -/
  submissions : Nat := 0
  /-- The message that every submission fails with. -/
  submitFailure : Option String := none
  /-- Refusals of the next submissions. -/
  submitErrors : List ContainerError := []
  /-- The refusal of the submission that was just taken. -/
  refusal : Option ContainerError := none
  /-- The answers to the next polls. -/
  script : List (Except ClusterError RemoteStatus) := []
  /-- The answer to polls behind the script. -/
  defaultStatus : RemoteStatus := .running
  /-- The runs that were polled, newest first. -/
  polled : List RunId := []
  /-- The message that every stop question fails with. -/
  killFailure : Option String := none
  /-- Failures of the next stop questions. -/
  killErrors : List ClusterError := []
  /-- The runs that were stopped, newest first. -/
  kills : List RunId := []
  /-- The answer to search questions. -/
  found : Option RunId := none
  /-- The answers to the next search questions. -/
  findAnswers : List (Except ClusterError (Option RunId)) := []
  /-- How many search questions were answered. -/
  finds : Nat := 0
  /-- The message that every artifact is refused with. -/
  rejection : Option String := none
  /-- The artifacts that were accepted, newest first: job, run and digest of the flow. -/
  accepted : List (JobId × RunId × String) := []
  /-- How long a poll takes. -/
  pollDelay : Nat := 0
  /-- How long a stop question takes. -/
  killDelay : Nat := 0
  /-- How long a search question takes. -/
  findDelay : Nat := 0

namespace ScriptedCluster

/-- A number with at least three digits. -/
def threeDigits (n : Nat) : String :=
  let ds := toString n
  String.ofList (List.replicate (3 - ds.length) '0') ++ ds

/-- Hands out the next run id. -/
def allocate (s : ScriptedCluster) : ScriptedCluster × RunId :=
  ({ s with lastRun := s.lastRun + 1 }, ⟨"app_" ++ threeDigits (s.lastRun + 1)⟩)

/-- Takes the artifact of a job. -/
def accept (jobId : JobId) (s : ScriptedCluster) (artifact : JobArtifact) :
    ScriptedCluster × Except ClusterError RunId :=
  match s.rejection with
  | some message => (s, .error (.submission message))
  | none =>
    let (s, run) := s.allocate
    ({ s with accepted := (jobId, run, artifact.flowDigest) :: s.accepted }, .ok run)

/-- Takes a submission.  One that is refused by a queued error is refused at once and does not
count. -/
def askSubmit (s : ScriptedCluster) : ScriptedCluster × Nat :=
  match s.submitMode, s.submitErrors with
  | .named, _ => (s, 0)
  | .allocate _, e :: rest => ({ s with submitErrors := rest, refusal := some e }, 0)
  | .allocate delay, [] => ({ s with submissions := s.submissions + 1 }, delay)

/-- Takes a question. -/
def ask (s : ScriptedCluster) : Query → ScriptedCluster × Nat
  | .submit _ => s.askSubmit
  | .poll _ => (s, s.pollDelay)
  | .kill _ => (s, s.killDelay)
  | .find _ => (s, s.findDelay)

/-- Answers a submission. -/
def answerSubmit (s : ScriptedCluster) (identity : JobIdentity) :
    ScriptedCluster × Except ContainerError RunId :=
  match s.submitMode with
  | .named => (s, .ok ⟨"run-" ++ identity.jobId.text⟩)
  | .allocate _ =>
    match s.refusal with
    | some e => ({ s with refusal := none }, .error e)
    | none =>
      match s.submitFailure with
      | some m => (s, .error (.submission identity.jobId m))
      | none =>
        let (s, run) := s.allocate
        (s, .ok run)

/-- Answers a poll. -/
def answerPoll (s : ScriptedCluster) (runId : RunId) :
    ScriptedCluster × Except ClusterError RemoteStatus :=
  let s := { s with polled := runId :: s.polled }
  match s.script with
  | a :: rest => ({ s with script := rest }, a)
  | [] => (s, .ok s.defaultStatus)

/-- Answers a stop question. -/
def answerKill (s : ScriptedCluster) (runId : RunId) :
    ScriptedCluster × Except ClusterError Unit :=
  match s.killErrors with
  | e :: rest => ({ s with killErrors := rest }, .error e)
  | [] =>
    match s.killFailure with
    | some m => (s, .error (.transient m))
    | none => ({ s with kills := runId :: s.kills }, .ok ())

/-- Answers a search question. -/
def answerFind (s : ScriptedCluster) : ScriptedCluster × Except ClusterError (Option RunId) :=
  let s := { s with finds := s.finds + 1 }
  match s.findAnswers with
  | a :: rest => ({ s with findAnswers := rest }, a)
  | [] => (s, .ok s.found)

/-- Answers a question. -/
def answer (s : ScriptedCluster) : (query : Query) → ScriptedCluster × query.Answer
  | .submit identity => s.answerSubmit identity
  | .poll runId => s.answerPoll runId
  | .kill runId => s.answerKill runId
  | .find _ => s.answerFind

/-- The behaviour of scripted clusters. -/
def behaviour : Cluster ScriptedCluster := ⟨ask, answer⟩

end ScriptedCluster

end JobSupervision
