/-
# Local clusters

A cluster that runs every job as a worker on the machine itself.  A run is active as long as
its worker runs; whoever polls it after that collects the outcome, which turns into a status
that stays.
-/
import JobSupervision.Console
import JobSupervision.Container.Error
import JobSupervision.Cluster.Scripted
import JobSupervision.Launch.Machine
import JobSupervision.Launch.Status

namespace JobSupervision

/-- A run on a local cluster. -/
inductive LocalRun (V : Type) where
  /-- Nobody has collected the outcome yet. -/
  | active (launch : Launched V)
  /-- The outcome is being collected. -/
  | settling
  /-- The run has a status that stays. -/
  | done (status : RemoteStatus)

/-- A local cluster for a type of work. -/
structure LocalCluster (W V : Type) where
  /-- How workers are launched. -/
  settings : LauncherSettings
  /-- The type of work. -/
  work : WorkType W V
  /-- The work of a job. -/
  unitOf : JobArtifact → W
  /-- The memory that every worker starts with. -/
  heapInitial : HeapSize := .ofMebi 512
  /-- The memory that every worker may use. -/
  heapMax : HeapSize := .ofMebi 512
  /-- The number of the next run; behind the greatest number it begins anew with zero. -/
  nextRun : UInt64 := 1
  /-- The runs by their ids. -/
  runs : List (RunId × LocalRun V) := []
  /-- The latest run of each job. -/
  latest : List (JobId × RunId) := []
  /-- The label of the console of each launch, and the launches whose outcome was collected. -/
  labels : List (RunId × String) := []
  /-- The console lines of the runs whose outcome was collected, with their times. -/
  log : List (Nat × String) := []

namespace LocalCluster

variable {W V : Type}

/-- The launch of a job. -/
def configuration (c : LocalCluster W V) (artifact : JobArtifact) (identity : JobIdentity) :
    Except LaunchError (LaunchConfiguration W) :=
  LaunchDraft.build
    { work := some (c.unitOf artifact), heapInitial := some c.heapInitial,
      heapMax := some c.heapMax, inherits := false, userClasspath := artifact.dependencies,
      workDir := some identity.workDir, consoleSet := true }

/-- The id of the run of a job that has a number. -/
def runId (jobId : JobId) (number : UInt64) : RunId :=
  ⟨"local_" ++ jobId.text ++ "_" ++ ScriptedCluster.threeDigits number.toNat⟩

/-- The id of the next run. -/
def nextId (c : LocalCluster W V) (jobId : JobId) : RunId := runId jobId c.nextRun

/-- Sets what is known about a run. -/
def setRun (c : LocalCluster W V) (id : RunId) (run : LocalRun V) : LocalCluster W V :=
  { c with runs := (id, run) :: c.runs.filter (·.1 ≠ id) }

/-- Enters the launch of a job under a new id. -/
def enter (c : LocalCluster W V) (jobId : JobId) (launch : Launched V) :
    LocalCluster W V × RunId :=
  let id := c.nextId jobId
  ({ c.setRun id (.active launch) with
      nextRun := c.nextRun + 1
      latest := (jobId, id) :: c.latest.filter (·.1 ≠ jobId)
      labels := (id, jobId.text) :: c.labels }, id)

/-- Runs a job. -/
def submit (c : LocalCluster W V) (m : Machine) (artifact : JobArtifact) (identity : JobIdentity) :
    Machine × LocalCluster W V × Except ClusterError RunId :=
  match c.configuration artifact identity with
  | .error e => (m, c, .error (.submission e.message))
  | .ok configuration =>
    let launched := m.launch c.settings c.work configuration
    match launched.2 with
    | .error e => (launched.1, c, .error (.submission e.message))
    | .ok launch =>
      let entered := c.enter identity.jobId launch
      (launched.1, entered.1, .ok entered.2)

/-- What a look at a run finds. -/
inductive Look (V : Type) where
  /-- A status. -/
  | status (status : RemoteStatus)
  /-- An outcome that is to be collected. -/
  | outcome (outcome : LaunchOutcome V)

/-- The console lines of a run with their times. -/
def linesOf (c : LocalCluster W V) (now : Nat) (id : RunId) (launch : Launched V) :
    List (Nat × String) :=
  (launch.consoleLines now).map fun line =>
    (line.1, Console.labelled ((c.labels.lookup id).getD "") line.2)

/-- Looks at a run.  An outcome that is there is taken at once. -/
def look (c : LocalCluster W V) (now : Nat) (id : RunId) : Look V × LocalCluster W V :=
  match c.runs.lookup id with
  | none => (.status .unknown, c)
  | some (.done status) => (.status status, c)
  | some .settling => (.status .running, c)
  | some (.active launch) =>
    match launch.handle.take? with
    | none => (.status .running, c)
    | some (outcome, _) =>
      (.outcome outcome, { c.setRun id .settling with log := c.log ++ c.linesOf now id launch })

/-- Notes the status of a run whose outcome was collected. -/
def settle (c : LocalCluster W V) (id : RunId) (outcome : LaunchOutcome V) :
    RemoteStatus × LocalCluster W V :=
  (RemoteStatus.ofOutcome outcome, c.setRun id (.done (RemoteStatus.ofOutcome outcome)))

/-- Tells the status of a run. -/
def poll (c : LocalCluster W V) (now : Nat) (id : RunId) : RemoteStatus × LocalCluster W V :=
  match c.look now id with
  | (.status status, c) => (status, c)
  | (.outcome outcome, c) => c.settle id outcome

/-- Stops a run.  One that has ended stays as it is. -/
def kill (c : LocalCluster W V) (id : RunId) : Except ClusterError Unit × LocalCluster W V :=
  match c.runs.lookup id with
  | none => (.error (.transient ("no local run " ++ id.text)), c)
  | some (.active launch) => (.ok (), c.setRun id (.active launch.cancel))
  | some _ => (.ok (), c)

/-- The latest run of a job. -/
def find (c : LocalCluster W V) (jobId : JobId) : Option RunId := c.latest.lookup jobId

/-- The cluster after the time went on. -/
def passTo (c : LocalCluster W V) (now later : Nat) : LocalCluster W V :=
  { c with runs := c.runs.map fun run =>
      match run with
      | (id, .active launch) => (id, .active (launch.passTo now later))
      | run => run }

/-- When the outcome of a run will be there. -/
def settlesAt? (c : LocalCluster W V) (now : Nat) (id : RunId) : Option Nat :=
  match c.runs.lookup id with
  | some (.active launch) => if launch.handle.isFinished then some now else launch.settlesAt? now
  | _ => some now

/-- All console lines up to a time, in the order they came. -/
def console (c : LocalCluster W V) (now : Nat) : List String :=
  let active := c.runs.reverse.flatMap fun run =>
    match run with
    | (id, .active launch) => c.linesOf now id launch
    | _ => []
  ((c.log ++ active).mergeSort fun a b => a.1 ≤ b.1).map (·.2)

/-- The inspection text. -/
def inspect (c : LocalCluster W V) : String :=
  Text.inspectRecord "LocalCluster"
    [("work_kind", Text.quote c.work.kindName), ("heap_initial", c.heapInitial.inspect),
      ("heap_max", c.heapMax.inspect), ("run_count", toString c.runs.length)]

end LocalCluster

end JobSupervision
