/-
# Jobs

A job is known by its id and described by its flow, a free JSON value, together with the
directory it works in and the files it depends on.  Building a job gives an artifact: the
flow with its digest and the dependencies that were found.
-/
import JobSupervision.FileSystem

namespace JobSupervision

/-- The id of a job. -/
structure JobId where
  /-- The text of the id. -/
  text : String
deriving DecidableEq, Repr

/-- The id that a cluster gives to one run of a job. -/
structure RunId where
  /-- The text of the id. -/
  text : String
deriving DecidableEq, Repr

namespace JobId

/-- An id is encoded as its text. -/
def encode (id : JobId) : Json := .str id.text

/-- The id that a document holds. -/
def decode? (d : Json.Doc) : Option JobId := d.string?.map JobId.mk

/-- The inspection text. -/
def inspect (id : JobId) : String := Text.inspectWrapped "JobId" (Text.quote id.text)

end JobId

namespace RunId

/-- An id is encoded as its text. -/
def encode (id : RunId) : Json := .str id.text

/-- The id that a document holds. -/
def decode? (d : Json.Doc) : Option RunId := d.string?.map RunId.mk

/-- The inspection text. -/
def inspect (id : RunId) : String := Text.inspectWrapped "RunId" (Text.quote id.text)

/-- The inspection text of an id that may be missing. -/
def inspectOption (id : Option RunId) : String := Text.inspectOption (id.map inspect)

end RunId

/-- What a job is: its id, its flow, the directory it works in and its dependencies. -/
structure JobIdentity where
  /-- The id of the job. -/
  jobId : JobId
  /-- The description of what the job does. -/
  flow : Json
  /-- The directory that relative dependencies are taken from. -/
  workDir : Path
  /-- The files that the job needs. -/
  dependencies : List Path

namespace JobIdentity

/-- A job that has nothing but an id. -/
def bare (jobId : JobId) : JobIdentity := ⟨jobId, .null, ⟨"/"⟩, []⟩

/-- A dependency as an absolute path, if it has one. -/
def resolve? (fs : FileSystem) (base dependency : Path) : Option Path :=
  if dependency.isAbsolute then some dependency
  else Path.absolute? fs.here (base.join dependency)

/-- The dependencies that are files, as absolute paths and in order.  One that is no file is
left out. -/
def resolvedDependencies (fs : FileSystem) (identity : JobIdentity) : List Path :=
  identity.dependencies.filterMap fun dependency =>
    match resolve? fs identity.workDir dependency with
    | some p => if fs.isFile p then some p else none
    | none => none

/-- An identity is encoded by its fields. -/
def encode (i : JobIdentity) : Json :=
  .obj [("job_id", i.jobId.encode), ("flow", i.flow), ("work_dir", i.workDir.encode),
    ("dependencies", .arr (i.dependencies.map Path.encode))]

/-- The identity that a document holds. -/
def decode? (d : Json.Doc) : Option JobIdentity := do
  let fields ← d.fields? ["job_id", "flow", "work_dir", "dependencies"]
  let jobId ← fields.required "job_id" JobId.decode?
  let flow ← fields.required "flow" Json.Doc.toJson?
  let workDir ← fields.required "work_dir" Path.decode?
  let dependencies ← fields.required "dependencies" (Json.Doc.list? Path.decode?)
  return ⟨jobId, flow, workDir, dependencies⟩

end JobIdentity

/-- What is handed to a cluster: the flow of a job with its digest, and its dependencies. -/
structure JobArtifact where
  /-- The id of the job. -/
  jobId : JobId
  /-- The digest of the flow. -/
  flowDigest : String
  /-- The files that were found for the dependencies. -/
  dependencies : List Path
  /-- The description of what the job does. -/
  flow : Json

namespace JobArtifact

/-- An artifact is encoded by its fields. -/
def encode (a : JobArtifact) : Json :=
  .obj [("job_id", a.jobId.encode), ("flow_digest", .str a.flowDigest),
    ("dependencies", .arr (a.dependencies.map Path.encode)), ("flow", a.flow)]

/-- The artifact that a document holds. -/
def decode? (d : Json.Doc) : Option JobArtifact := do
  let fields ← d.fields? ["job_id", "flow_digest", "dependencies", "flow"]
  let jobId ← fields.required "job_id" JobId.decode?
  let flowDigest ← fields.required "flow_digest" Json.Doc.string?
  let dependencies ← fields.required "dependencies" (Json.Doc.list? Path.decode?)
  let flow ← fields.required "flow" Json.Doc.toJson?
  return ⟨jobId, flowDigest, dependencies, flow⟩

end JobArtifact

end JobSupervision
