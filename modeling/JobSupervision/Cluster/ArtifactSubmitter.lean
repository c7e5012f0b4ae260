/-
# Submitting artifacts

The artifact of a job is built by a worker of its own and then handed to a cluster.  A build
that takes too long is stopped.
-/
import JobSupervision.Console
import JobSupervision.Container.Error
import JobSupervision.Launch.Machine

namespace JobSupervision

/-- How artifacts are built. -/
structure ArtifactSubmitter where
  /-- How workers are launched. -/
  settings : LauncherSettings
  /-- Where the worker looks for dependencies. -/
  classpath : ClasspathChain := .empty
  /-- The memory that a worker may use. -/
  heapMax : Option HeapSize := none
  /-- How long a build may take, in milliseconds. -/
  buildTimeoutMs : Option Nat := none

/-- What the build of an artifact comes to. -/
structure ArtifactBuild where
  /-- The machine afterwards. -/
  machine : Machine
  /-- The console lines, labelled with the job. -/
  console : List String
  /-- The artifact. -/
  result : Except LaunchError JobArtifact

namespace ArtifactSubmitter

/-- The launch that builds the artifact of a job. -/
def configuration (s : ArtifactSubmitter) (fs : FileSystem) (identity : JobIdentity) :
    Except LaunchError (LaunchConfiguration BuildManifest) :=
  LaunchDraft.build
    { work := some (.forJob fs identity), heapMax := s.heapMax,
      userClasspath := s.classpath.walk, workDir := some identity.workDir, consoleSet := true }

/-- Waits for a build.  One that takes too long is stopped and waited for; a build without a
limit may have no end. -/
def await (s : ArtifactSubmitter) (now : Nat) (launch : Launched JobArtifact) :
    Option (Nat × LaunchOutcome JobArtifact × Launched JobArtifact) := do
  match ← launch.wait now s.buildTimeoutMs with
  | (now, .error (.timedOut limit), launch) =>
    let (now, _, launch) ← launch.cancel.wait now none
    return (now, .error (.timedOut limit), launch)
  | r => return r

/-- The build of a launch that was made on a machine, or of one that could not be made. -/
def buildOf (s : ArtifactSubmitter) (m : Machine) (jobId : JobId) :
    Except LaunchError (Launched JobArtifact) → Option ArtifactBuild
  | .error e => some ⟨m, [], .error e⟩
  | .ok launch =>
    (s.await m.clock launch).map fun r =>
      { machine := { m with clock := r.1 }
        console := (r.2.2.consoleLines r.1).map fun line => Console.labelled jobId.text line.2
        result := r.2.1.bind ExecutionResult.intoValue }

/-- The build of a job whose launch was described, or of one that cannot be described. -/
def buildFrom (s : ArtifactSubmitter) (m : Machine) (jobId : JobId) :
    Except LaunchError (LaunchConfiguration BuildManifest) → Option ArtifactBuild
  | .error e => some ⟨m, [], .error e⟩
  | .ok configuration =>
    let launched := m.launch s.settings BuildManifest.workType configuration
    s.buildOf launched.1 jobId launched.2

/-- Builds the artifact of a job. -/
def build (s : ArtifactSubmitter) (m : Machine) (identity : JobIdentity) : Option ArtifactBuild :=
  s.buildFrom m identity.jobId (s.configuration m.files identity)

/-- Hands a built artifact to a cluster. -/
def handOver {σ : Type} (jobId : JobId) (accept : σ → JobArtifact → σ × Except ClusterError RunId)
    (cluster : σ) (built : Except LaunchError JobArtifact) : σ × Except ContainerError RunId :=
  match built with
  | .error e => (cluster, .error (ContainerError.build jobId e))
  | .ok artifact =>
    match accept cluster artifact with
    | (cluster, .ok runId) => (cluster, .ok runId)
    | (cluster, .error e) => (cluster, .error (ContainerError.submission jobId e.message))

/-- Builds the artifact of a job and hands it to a cluster. -/
def submit {σ : Type} (s : ArtifactSubmitter) (m : Machine) (identity : JobIdentity)
    (accept : σ → JobArtifact → σ × Except ClusterError RunId) (cluster : σ) :
    Option (ArtifactBuild × σ × Except ContainerError RunId) :=
  (s.build m identity).map fun b => (b, handOver identity.jobId accept cluster b.result)

/-- The inspection text. -/
def inspect (s : ArtifactSubmitter) : String :=
  Text.inspectRecord "ArtifactSubmitter"
    [("launcher", Text.inspectRecord "WorkerLauncher" [("config", s.settings.inspect)]),
      ("classpath", s.classpath.inspect),
      ("heap_max", Text.inspectOption (s.heapMax.map HeapSize.inspect)),
      ("build_timeout", Text.inspectOption (s.buildTimeoutMs.map fun ms =>
        (Duration.ofMillis ms).inspect))]

end ArtifactSubmitter

end JobSupervision
