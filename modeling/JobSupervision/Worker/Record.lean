/-
# Result records

The file that a worker leaves behind.  It is first written beside its place and then moved
there, so that nobody ever reads half a record.
-/
import JobSupervision.Failure
import JobSupervision.FileSystem
import JobSupervision.Json.Printer
import JobSupervision.Json.Reader

namespace JobSupervision

/-- What a worker reports. -/
inductive ResultRecord where
  /-- The unit of work gave a value. -/
  | success (value : Json)
  /-- The unit of work failed. -/
  | failure (cause : FailureCause)

/-- Why a record was not written. -/
inductive RecordFault where
  /-- The file beside the place of the record could not be written. -/
  | writing (path : Path)
  /-- The file could not be moved into its place. -/
  | renaming (path : Path)
deriving DecidableEq, Repr

/-- The text of a fault. -/
def RecordFault.message : RecordFault → String
  | .writing path => "writing " ++ path.text
  | .renaming path => "renaming into " ++ path.text

namespace ResultRecord

/-- A record is encoded by its status and its content. -/
def encode : ResultRecord → Json
  | .success value => .obj [("status", .str "success"), ("value", value)]
  | .failure cause => .obj [("status", .str "failure"), ("cause", cause.encode)]

/-- The record that a document holds. -/
def decode? (d : Json.Doc) : Option ResultRecord := do
  let (status, rest) ← d.tagged? "status"
  match status with
  | "success" => do
    let fields ← rest.fields? ["value"]
    let value ← fields.required "value" Json.Doc.toJson?
    return .success value
  | "failure" => do
    let fields ← rest.fields? ["cause"]
    let cause ← fields.required "cause" FailureCause.decode?
    return .failure cause
  | _ => none

/-- The bytes of the file of a record. -/
def bytes (r : ResultRecord) : List UInt8 := Text.Utf8.encode r.encode.render

/-- The record that some bytes hold. -/
def ofBytes? (content : List UInt8) : Option ResultRecord :=
  (Json.Doc.parseBytes? content).bind decode?

/-- The file beside the place of a record. -/
def staging (path : Path) : Path := path.append ".tmp"

/-- Writes a record to its place.  The file system is the one afterwards, also if the record
could not be written. -/
def writeAtomic (fs : FileSystem) (path : Path) (r : ResultRecord) :
    Except RecordFault Unit × FileSystem :=
  match fs.write (staging path) r.bytes with
  | .error _ => (.error (.writing (staging path)), fs)
  | .ok staged =>
    match staged.rename (staging path) path with
    | .error _ => (.error (.renaming path), staged)
    | .ok final => (.ok (), final)

/-- A record whose file beside its place cannot be written changes nothing. -/
theorem writeAtomic_of_write_error {fs : FileSystem} {path : Path} {r : ResultRecord}
    {e : FileFault} (h : fs.write (staging path) r.bytes = .error e) :
    r.writeAtomic fs path = (.error (.writing (staging path)), fs) := by
  simp [writeAtomic, h]

end ResultRecord

end JobSupervision
