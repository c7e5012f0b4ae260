/-
# Records between launcher and worker

Whatever one side writes the other side reads as it was: the payload, the parameters in it, the
record, and the value in it.  The parameters and the value are sorted on their way; free data that
is sorted itself stays as it is (`Json.sorted_eq_self`).
-/
import JobSupervision.Launch.Work
import JobSupervision.Worker.Payload
import JobSupervision.Worker.Record
import JobSupervision.Proofs.Json.Records

namespace JobSupervision

open Json

namespace Path

lemma decode?_encode (p : Path) : decode? p.encode.toDoc = some p := rfl

lemma list?_encode (paths : List Path) :
    Doc.list? decode? (Json.arr (paths.map encode)).toDoc = some paths :=
  Doc.list?_toDoc decode?_encode paths

lemma sortedItems_encode (paths : List Path) :
    sortedItems (paths.map encode) = paths.map encode :=
  sortedItems_map (fun p => by rw [encode, sorted]) paths

lemma plainItems_encode (depth : Nat) (paths : List Path) :
    PlainItems depth (paths.map encode) :=
  plainItems_map (fun p => by simp [encode, Plain]) paths

end Path

/-! ### Payloads and records -/

lemma WorkPayload.decode?_encode {p : WorkPayload} (h : p.params.Sorted) :
    decode? p.encode.toDoc = some p := by
  rw [decode?, encode, Doc.fields?_toDoc (by simp) (by simp)]
  simp [Doc.Fields.required, Doc.Fields.defaulted, Doc.Fields.find?, toJson?_toDoc_of_sorted h,
    Path.list?_encode]

lemma WorkPayload.plain_encode {p : WorkPayload} {depth : Nat} (h : p.params.Plain (depth + 1)) :
    p.encode.Plain (depth + 2) := by
  have hversion := p.version.toNat_lt
  have hnumber := plain_nat (n := p.version.toNat) (by omega) (depth + 1)
  simp [encode, Plain, PlainMembers, h, hnumber, Path.plainItems_encode]

namespace FailureCause

lemma decode?_encode (c : FailureCause) : decode? c.encode.toDoc = some c := by
  obtain ⟨kind, message, causes⟩ := c
  by_cases hcauses : causes = []
  · simp [decode?, encode, Doc.fields?_toDoc, Doc.Fields.required, Doc.Fields.defaulted,
      Doc.Fields.find?, hcauses]
  · simp [decode?, encode, Doc.fields?_toDoc, Doc.Fields.required, Doc.Fields.defaulted,
      Doc.Fields.find?, hcauses]

lemma plain_encode (c : FailureCause) (depth : Nat) : c.encode.Plain (depth + 2) := by
  by_cases hcauses : c.causes = []
  · simp [encode, Plain, PlainMembers, hcauses]
  · simp [encode, Plain, PlainMembers, hcauses, plain_strings]

end FailureCause

namespace ResultRecord

lemma decode?_success {value : Json} (h : value.Sorted) :
    decode? (success value).encode.toDoc = some (success value) := by
  have htag : Doc.tagged? "status" (success value).encode.toDoc =
      some ("success", (Json.obj [("value", value)]).toDoc) :=
    Doc.tagged?_toDoc [] _ (by simp) (by simp)
  simp [decode?, htag, Doc.fields?_toDoc, Doc.Fields.required, Doc.Fields.find?,
    toJson?_toDoc_of_sorted h]

lemma decode?_failure (cause : FailureCause) :
    decode? (failure cause).encode.toDoc = some (failure cause) := by
  have htag : Doc.tagged? "status" (failure cause).encode.toDoc =
      some ("failure", (Json.obj [("cause", cause.encode)]).toDoc) :=
    Doc.tagged?_toDoc [] _ (by simp) (by simp)
  simp [decode?, htag, Doc.fields?_toDoc, Doc.Fields.required, Doc.Fields.find?,
    FailureCause.decode?_encode]

end ResultRecord

/-! ### Parameters and values -/

lemma JobArtifact.decode?_sorted {a : JobArtifact} (h : a.flow.Sorted) :
    decode? a.encode.sorted.toDoc = some a := by
  obtain ⟨jobId, flowDigest, dependencies, flow⟩ := a
  have hsorted : (JobArtifact.mk jobId flowDigest dependencies flow).encode.sorted =
      .obj [("dependencies", .arr (dependencies.map Path.encode)), ("flow", flow),
        ("flow_digest", .str flowDigest), ("job_id", .str jobId.text)] := by
    simp only [encode, JobId.encode, sorted, sortedMembers, sortMembers, insertMember,
      Path.sortedItems_encode, sorted_eq_self h, List.foldl_cons, List.foldl_nil,
      String.reduceLT, String.reduceEq, ite_true, ite_false]
  rw [hsorted, decode?, Doc.fields?_toDoc (by simp) (by simp)]
  simp [Doc.Fields.required, Doc.Fields.find?, JobId.decode?, toJson?_toDoc_of_sorted h,
    Path.list?_encode]

lemma BuildManifest.decode?_sorted {m : BuildManifest} (h : m.flow.Sorted) :
    decode? m.encode.sorted.toDoc = some m := by
  obtain ⟨jobId, flow, dependencies⟩ := m
  have hsorted : (BuildManifest.mk jobId flow dependencies).encode.sorted =
      .obj [("dependencies", .arr (dependencies.map Path.encode)), ("flow", flow),
        ("job_id", .str jobId.text)] := by
    simp only [encode, JobId.encode, sorted, sortedMembers, sortMembers, insertMember,
      Path.sortedItems_encode, sorted_eq_self h, List.foldl_cons, List.foldl_nil,
      String.reduceLT, String.reduceEq, ite_true, ite_false]
  rw [hsorted, decode?, Doc.fields?_toDoc (by simp) (by simp)]
  simp [Doc.Fields.required, Doc.Fields.defaulted, Doc.Fields.find?, JobId.decode?,
    toJson?_toDoc_of_sorted h, Path.list?_encode]

namespace Probe

/-- The name of the alternative that a probe is. -/
def alternative : Probe → String
  | .value _ => "value"
  | .divide .. => "divide"
  | .echo _ => "echo"
  | .echoThenFail .. => "echo_then_fail"
  | .sleep _ => "sleep"
  | .exit _ => "exit"

/-- The fields of a probe, sorted. -/
def fields : Probe → List (String × Json)
  | .value v => [("value", .int v.toInt)]
  | .divide n d => [("denominator", .int d.toInt), ("numerator", .int n.toInt)]
  | .echo lines => [("lines", strings lines)]
  | .echoThenFail lines message => [("lines", strings lines), ("message", .str message)]
  | .sleep millis => [("millis", .nat millis.toNat)]
  | .exit code => [("code", .int code.toInt)]

lemma tagged?_sorted (p : Probe) :
    Doc.tagged? "probe" p.encode.sorted.toDoc =
      some (p.alternative, (Json.obj p.fields).toDoc) := by
  have hint (n : Int) : (Json.int n).sorted = .int n := by rw [Json.int, sorted]
  have hnat (n : Nat) : (Json.nat n).sorted = .nat n := by rw [Json.nat, sorted]
  cases p <;>
    simp only [encode, sorted, sortedMembers, sortMembers, insertMember, sorted_strings, hint, hnat,
      List.foldl_cons, List.foldl_nil, String.reduceLT, String.reduceEq, ite_true, ite_false]
  case value v => exact Doc.tagged?_toDoc [] _ (by simp) (by simp)
  case divide n d => exact Doc.tagged?_toDoc [_, _] [] (by simp) (by simp)
  case echo lines => exact Doc.tagged?_toDoc [_] [] (by simp) (by simp)
  case echoThenFail lines message => exact Doc.tagged?_toDoc [_, _] [] (by simp) (by simp)
  case sleep millis => exact Doc.tagged?_toDoc [_] [] (by simp) (by simp)
  case exit code => exact Doc.tagged?_toDoc [_] [] (by simp) (by simp)

lemma decode?_sorted (p : Probe) : decode? p.encode.sorted.toDoc = some p := by
  rw [decode?, tagged?_sorted]
  cases p <;>
    simp [alternative, fields, Doc.fields?_toDoc, Doc.Fields.required, Doc.Fields.find?]

end Probe

end JobSupervision
