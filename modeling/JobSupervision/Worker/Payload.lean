/-
# Payloads

The file that tells a worker what to do: the kind of work, its parameters and the classpath.
-/
import JobSupervision.FileSystem
import JobSupervision.Json.Printer
import JobSupervision.Json.Reader

namespace JobSupervision

/-- What a worker is to do. -/
structure WorkPayload where
  /-- The version of the form of payloads. -/
  version : UInt32
  /-- The kind of work. -/
  kind : String
  /-- The parameters of the work. -/
  params : Json
  /-- Where dependencies are looked for. -/
  classpath : List Path

/-- Why a payload cannot be used. -/
inductive PayloadFault where
  /-- The file cannot be read. -/
  | unreadable (path : Path)
  /-- The file does not hold a payload. -/
  | malformed (path : Path)
  /-- The payload has another form. -/
  | unsupported (version : UInt32)
deriving DecidableEq, Repr

namespace WorkPayload

/-- The version of the form of payloads. -/
def currentVersion : UInt32 := 1

/-- A payload is encoded by its fields. -/
def encode (p : WorkPayload) : Json :=
  .obj [("version", .nat p.version.toNat), ("kind", .str p.kind), ("params", p.params),
    ("classpath", .arr (p.classpath.map Path.encode))]

/-- The payload that a document holds. -/
def decode? (d : Json.Doc) : Option WorkPayload := do
  let fields ← d.fields? ["version", "kind", "params", "classpath"]
  let version ← fields.required "version" Json.Doc.uint32?
  let kind ← fields.required "kind" Json.Doc.string?
  let params ← fields.required "params" Json.Doc.toJson?
  let classpath ← fields.defaulted "classpath" [] (Json.Doc.list? Path.decode?)
  return ⟨version, kind, params, classpath⟩

/-- The bytes of the file of a payload. -/
def bytes (p : WorkPayload) : List UInt8 := Text.Utf8.encode p.encode.render

/-- The payload in a file. -/
def readFrom (fs : FileSystem) (path : Path) : Except PayloadFault WorkPayload :=
  match fs.read path with
  | .error _ => .error (.unreadable path)
  | .ok content =>
    match (Json.Doc.parseBytes? content).bind decode? with
    | none => .error (.malformed path)
    | some payload =>
      if payload.version = currentVersion then .ok payload
      else .error (.unsupported payload.version)

end WorkPayload

/-- The text of a fault. -/
def PayloadFault.message : PayloadFault → String
  | .unreadable path => "reading payload " ++ path.text
  | .malformed path => "decoding payload " ++ path.text
  | .unsupported version =>
    "unsupported payload version " ++ toString version.toNat ++ " (expected " ++
      toString WorkPayload.currentVersion.toNat ++ ")"

end JobSupervision
