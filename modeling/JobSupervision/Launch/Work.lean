/-
# Work to launch

What the launching side knows about a type of work: the name of its kind, how the parameters
are encoded, and which values its result may have.
-/
import JobSupervision.Worker.Manifest
import JobSupervision.Worker.Probe

namespace JobSupervision

/-- A type `W` of work with results in `V`. -/
structure WorkType (W V : Type) where
  /-- The name of the kind of work. -/
  kindName : String
  /-- The parameters of a piece of work; some cannot be encoded. -/
  encode? : W → Option Json
  /-- The result that a document holds. -/
  result? : Json.Doc → Option V

/-- Probes as work to launch. -/
def Probe.workType : WorkType Probe Int64 where
  kindName := kindName
  encode? p := some p.encode.sorted
  result? := Json.Doc.int64?

/-- Build manifests as work to launch. -/
def BuildManifest.workType : WorkType BuildManifest JobArtifact where
  kindName := kindName
  encode? m := some m.encode.sorted
  result? := JobArtifact.decode?

end JobSupervision
