/-
# Probes

A kind of work that tries out a worker: it gives a value, divides, prints, fails, sleeps or
ends the worker.
-/
import JobSupervision.Worker.Unit

namespace JobSupervision

/-- What a probe does. -/
inductive Probe where
  /-- Gives a value. -/
  | value (value : Int64)
  /-- Divides two numbers. -/
  | divide (numerator denominator : Int64)
  /-- Prints lines and gives their number. -/
  | echo (lines : List String)
  /-- Prints lines and fails. -/
  | echoThenFail (lines : List String) (message : String)
  /-- Sleeps and gives the milliseconds slept. -/
  | sleep (millis : UInt64)
  /-- Ends the worker. -/
  | exit (code : Int32)
deriving DecidableEq, Repr

namespace Probe

/-- The name of this kind of work. -/
def kindName : String := "vessel.probe"

/-- The name of the type of probes in an inspection text. -/
def typeName : String := "vessel::units::Probe"

/-- A probe is encoded by its kind and its fields. -/
def encode : Probe → Json
  | .value v => .obj [("probe", .str "value"), ("value", .int v.toInt)]
  | .divide n d =>
    .obj [("probe", .str "divide"), ("numerator", .int n.toInt), ("denominator", .int d.toInt)]
  | .echo lines => .obj [("probe", .str "echo"), ("lines", Json.strings lines)]
  | .echoThenFail lines message =>
    .obj [("probe", .str "echo_then_fail"), ("lines", Json.strings lines),
      ("message", .str message)]
  | .sleep millis => .obj [("probe", .str "sleep"), ("millis", .nat millis.toNat)]
  | .exit code => .obj [("probe", .str "exit"), ("code", .int code.toInt)]

/-- The probe that a document holds. -/
def decode? (d : Json.Doc) : Option Probe := do
  let (kind, rest) ← d.tagged? "probe"
  match kind with
  | "value" => do
    let fields ← rest.fields? ["value"]
    return .value (← fields.required "value" Json.Doc.int64?)
  | "divide" => do
    let fields ← rest.fields? ["numerator", "denominator"]
    let n ← fields.required "numerator" Json.Doc.int64?
    let d ← fields.required "denominator" Json.Doc.int64?
    return .divide n d
  | "echo" => do
    let fields ← rest.fields? ["lines"]
    return .echo (← fields.required "lines" (Json.Doc.list? Json.Doc.string?))
  | "echo_then_fail" => do
    let fields ← rest.fields? ["lines", "message"]
    let lines ← fields.required "lines" (Json.Doc.list? Json.Doc.string?)
    let message ← fields.required "message" Json.Doc.string?
    return .echoThenFail lines message
  | "sleep" => do
    let fields ← rest.fields? ["millis"]
    return .sleep (← fields.required "millis" Json.Doc.uint64?)
  | "exit" => do
    let fields ← rest.fields? ["code"]
    return .exit (← fields.required "code" Json.Doc.int32?)
  | _ => none

/-- The greatest value of a probe. -/
def greatest : Int := 0x7fffffffffffffff

/-- Division toward zero, where it has a value of 64 bits. -/
def divide? (n d : Int64) : Option Int64 :=
  if d = 0 then none
  else
    let q := n.toInt.tdiv d.toInt
    if q ≤ greatest then some (.ofInt q) else none

/-- The execution of a probe. -/
def execute : Probe → UnitExecution
  | .value v => .gives [] (.int v.toInt)
  | .divide n d =>
    let console := ["dividing " ++ toString n.toInt ++ " by " ++ toString d.toInt]
    match divide? n d with
    | some q => .gives console (.int q.toInt)
    | none =>
      .fails console "ArithmeticError" (if d = 0 then "division by zero" else "division overflow")
  | .echo lines => .gives lines (.int (Int64.ofNat lines.length).toInt)
  | .echoThenFail lines message => .fails lines "ProbeFailure" message
  | .sleep millis =>
    let n := millis.toNat
    if (n : Int) ≤ greatest then ⟨[], n, .value (.nat n)⟩
    else .fails [] "InvalidArgument" ("sleep of " ++ toString n ++ "ms is out of range")
  | .exit code => ⟨[], 0, .exits code.toInt⟩

/-- The value of a probe as its launcher reads it. -/
def output? (d : Json.Doc) : Option Int64 := d.int64?

/-- Probes as a kind of work. -/
def kind : WorkKind where
  name := kindName
  execute? params _ _ := (decode? params.toDoc).map execute

end Probe

end JobSupervision
