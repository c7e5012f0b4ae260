/-
# Build manifests

The kind of work that builds the artifact of a job: it finds the dependencies and takes the
digest of the flow.
-/
import JobSupervision.Digest.Sha256
import JobSupervision.Job
import JobSupervision.Json.Printer
import JobSupervision.Worker.Unit

namespace JobSupervision

/-- What is needed to build the artifact of a job. -/
structure BuildManifest where
  /-- The id of the job. -/
  jobId : JobId
  /-- The description of what the job does. -/
  flow : Json
  /-- The files that the job needs. -/
  dependencies : List Path

namespace BuildManifest

/-- The name of this kind of work. -/
def kindName : String := "vessel.build_manifest"

/-- The manifest for a job, with the dependencies that are files. -/
def forJob (fs : FileSystem) (identity : JobIdentity) : BuildManifest :=
  ⟨identity.jobId, identity.flow, identity.resolvedDependencies fs⟩

/-- A manifest is encoded by its fields. -/
def encode (m : BuildManifest) : Json :=
  .obj [("job_id", m.jobId.encode), ("flow", m.flow),
    ("dependencies", .arr (m.dependencies.map Path.encode))]

/-- The manifest that a document holds. -/
def decode? (d : Json.Doc) : Option BuildManifest := do
  let fields ← d.fields? ["job_id", "flow", "dependencies"]
  let jobId ← fields.required "job_id" JobId.decode?
  let flow ← fields.required "flow" Json.Doc.toJson?
  let dependencies ← fields.defaulted "dependencies" [] (Json.Doc.list? Path.decode?)
  return ⟨jobId, flow, dependencies⟩

/-- The file of a dependency: an absolute path as it is, any other one from the classpath. -/
def resolve? (ctx : WorkerContext) (fs : FileSystem) (dependency : Path) : Option Path :=
  if dependency.isAbsolute then
    if fs.isFile dependency then some dependency else none
  else findOnClasspath fs ctx.classpath dependency

/-- The files of some dependencies up to the first one that has none, and that one. -/
def resolveAll (ctx : WorkerContext) (fs : FileSystem) : List Path → List Path × Option Path
  | [] => ([], none)
  | d :: rest =>
    match resolve? ctx fs d with
    | none => ([], some d)
    | some p =>
      let (found, missing) := resolveAll ctx fs rest
      (p :: found, missing)

/-- Whether a flow is an object, as flows must be. -/
def isObject : Json → Bool
  | .obj _ => true
  | _ => false

/-- The bytes of a flow that its digest is taken of. -/
def flowBytes (flow : Json) : List UInt8 := Text.Utf8.encode flow.render

/-- The digest of a flow. -/
def flowDigest (flow : Json) : String := Digest.Sha256.hexDigest (flowBytes flow)

/-- The artifact that a manifest is built into, or the cause of the failure, with the lines
printed on the way. -/
def build (m : BuildManifest) (ctx : WorkerContext) (fs : FileSystem) :
    List String × Except FailureCause JobArtifact :=
  let opening := "building manifest for job " ++ m.jobId.text
  if !isObject m.flow then
    ([opening],
      .error ⟨"InvalidFlow", "flow of job " ++ m.jobId.text ++ " is not a JSON object", []⟩)
  else
    let (found, missing) := resolveAll ctx fs m.dependencies
    let lines := opening :: found.map fun p => "resolved dependency " ++ p.text
    match missing with
    | some d => (lines, .error ⟨"MissingDependency", "dependency " ++ d.text ++ " not found", []⟩)
    | none =>
      let digest := flowDigest m.flow
      (lines ++ ["flow digest " ++ digest], .ok ⟨m.jobId, digest, found, m.flow⟩)

/-- The execution of a manifest. -/
def execute (m : BuildManifest) (ctx : WorkerContext) (fs : FileSystem) : UnitExecution :=
  match m.build ctx fs with
  | (lines, .ok artifact) => .gives lines artifact.encode
  | (lines, .error cause) => ⟨lines, 0, .failure cause⟩

/-- Manifests as a kind of work. -/
def kind : WorkKind where
  name := kindName
  execute? params ctx fs := (decode? params.toDoc).map fun m => m.execute ctx fs

end BuildManifest

end JobSupervision
