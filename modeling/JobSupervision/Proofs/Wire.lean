/-
# Wire forms

Everything that crosses a process boundary or waits in a file is written as compact JSON text.
What is read from that text is what was written (`wireForms`).  There is one law per record,
`decode?` after `encode` on documents, and one step from documents to texts and bytes
(`ComesBack.of_law`).  Free data inside a record stays as it is if its objects are sorted, its
numbers are integers, and the text nests no deeper than the reader goes.
-/
import JobSupervision.Container.Event
import JobSupervision.Container.Retry
import JobSupervision.Settings
import JobSupervision.Proofs.HeapSize
import JobSupervision.Proofs.Worker.Units

namespace JobSupervision

open Json

/-! ### From documents to texts -/

/-- A value that comes back from its compact text, read as characters or as bytes. -/
structure ComesBack {α : Type} (encode : α → Json) (decode? : Doc → Option α) (x : α) : Prop where
  /-- It comes back from the characters. -/
  ofText : (Doc.parse? (encode x).text.toList).bind decode? = some x
  /-- It comes back from the bytes. -/
  ofBytes : (Doc.parseBytes? (Text.Utf8.encode (encode x).render)).bind decode? = some x

theorem ComesBack.of_law {α : Type} {encode : α → Json} {decode? : Doc → Option α} {x : α}
    (hlaw : decode? (encode x).toDoc = some x) (hplain : (encode x).Plain maxDepth) :
    ComesBack encode decode? x where
  ofText := by
    rw [Json.text, String.toList_ofList, Doc.parse?_render hplain]
    exact hlaw
  ofBytes := by
    rw [Doc.parseBytes?_render hplain]
    exact hlaw

namespace Json

/-- A value that may be missing comes back if the value does and is not written as `null`. -/
lemma Doc.option?_toDoc {α : Type} {encode : α → Json} {decode? : Doc → Option α}
    (hlaw : ∀ a, decode? (encode a).toDoc = some a) (hnull : ∀ a, (encode a).toDoc ≠ .null)
    (o : Option α) : Doc.option? decode? (Json.option encode o).toDoc = some o := by
  cases o with
  | none => rfl
  | some a =>
    have hsome := hlaw a
    cases hdoc : (encode a).toDoc with
    | null => exact absurd hdoc (hnull a)
    | _ => simpa [Json.option, Doc.option?, hdoc] using hsome

lemma plain_option {α : Type} {encode : α → Json} {depth : Nat}
    (h : ∀ a, (encode a).Plain depth) (o : Option α) : (Json.option encode o).Plain depth := by
  cases o with
  | none => simp [Json.option, Plain]
  | some a => exact h a

/-- The tag is found where it stands in front. -/
lemma Doc.tagged?_cons {tag name : String} {members : List (String × Json)}
    (h : ∀ m ∈ members, m.1 ≠ tag) :
    Doc.tagged? tag (Json.obj ((tag, .str name) :: members)).toDoc =
      some (name, (Json.obj members).toDoc) :=
  Doc.tagged?_toDoc [] members (by simp) h

lemma plain_uint16 (n : UInt16) (depth : Nat) : (Json.nat n.toNat).Plain depth := by
  have hlt := n.toNat_lt
  exact plain_nat (by omega) depth

lemma plain_uint64 (n : UInt64) (depth : Nat) : (Json.nat n.toNat).Plain depth :=
  plain_nat (Nat.le_of_lt_succ n.toNat_lt) depth

end Json

/-! ### Jobs -/

@[simp] lemma JobId.decode?_encode (id : JobId) : decode? id.encode.toDoc = some id := rfl

@[simp] lemma RunId.decode?_encode (id : RunId) : decode? id.encode.toDoc = some id := rfl

lemma JobIdentity.decode?_encode {i : JobIdentity} (h : i.flow.Sorted) :
    decode? i.encode.toDoc = some i := by
  rw [decode?, encode, Doc.fields?_toDoc (by simp) (by simp)]
  simp [Doc.Fields.required, Doc.Fields.find?, toJson?_toDoc_of_sorted h, Path.decode?_encode,
    Path.list?_encode]

lemma JobArtifact.decode?_encode {a : JobArtifact} (h : a.flow.Sorted) :
    decode? a.encode.toDoc = some a := by
  rw [decode?, encode, Doc.fields?_toDoc (by simp) (by simp)]
  simp [Doc.Fields.required, Doc.Fields.find?, toJson?_toDoc_of_sorted h, Path.list?_encode]

lemma BuildManifest.decode?_encode {m : BuildManifest} (h : m.flow.Sorted) :
    decode? m.encode.toDoc = some m := by
  rw [decode?, encode, Doc.fields?_toDoc (by simp) (by simp)]
  simp [Doc.Fields.required, Doc.Fields.defaulted, Doc.Fields.find?, toJson?_toDoc_of_sorted h,
    Path.list?_encode]

/-! ### Probes and results -/

lemma Probe.decode?_encode (p : Probe) : decode? p.encode.toDoc = some p := by
  cases p with
  | _ =>
    rw [decode?, encode, Doc.tagged?_cons (by simp)]
    simp [Doc.fields?_toDoc, Doc.Fields.required, Doc.Fields.find?]

lemma ResultRecord.decode?_encode {r : ResultRecord}
    (h : ∀ value, r = .success value → value.Sorted) :
    decode? r.encode.toDoc = some r := by
  cases r with
  | success value => exact decode?_success (h value rfl)
  | failure cause => exact decode?_failure cause

/-! ### Events -/

namespace EventPayload

lemma option?_encodeRun (run : Option RunId) :
    Doc.option? RunId.decode? (encodeRun run).toDoc = some run :=
  Doc.option?_toDoc RunId.decode?_encode (fun _ => nofun) run

lemma plain_encodeRun (run : Option RunId) (depth : Nat) : (encodeRun run).Plain depth :=
  plain_option (fun _ => by simp [RunId.encode, Plain]) run

lemma decode?_state (s : ContainerState) :
    ContainerState.decode? true s.encode.toDoc = some s := ContainerState.ofName?_name s

lemma decode?_encode (e : EventPayload) : decode? e.encode.toDoc = some e := by
  cases e with
  | _ =>
    rw [decode?, encode, Doc.tagged?_cons (by simp)]
    simp [Doc.fields?_toDoc, Doc.Fields.required, Doc.Fields.optional, Doc.Fields.find?,
      option?_encodeRun, decode?_state]

lemma plain_encode (e : EventPayload) (depth : Nat) : e.encode.Plain (depth + 1) := by
  cases e with
  | _ =>
    simp [encode, Plain, PlainMembers, plain_encodeRun, plain_uint16, RunId.encode,
      ContainerState.encode]

end EventPayload

/-! ### Settings -/

namespace RetryPolicy

lemma decode?_encode (p : RetryPolicy) : decode? p.encode.toDoc = some p := by
  rw [decode?, encode, Doc.fields?_toDoc (by simp) (by simp)]
  simp [Doc.Fields.defaulted, Doc.Fields.find?]

lemma plain_encode (p : RetryPolicy) (depth : Nat) : p.encode.Plain (depth + 1) := by
  simp [encode, Plain, PlainMembers, plain_uint16, plain_uint64]

end RetryPolicy

namespace LauncherSettings

lemma decode?_encode (s : LauncherSettings) : decode? s.encode.toDoc = some s := by
  have hdir : Doc.option? Path.decode? (Json.option Path.encode s.exchangeDir).toDoc =
      some s.exchangeDir := Doc.option?_toDoc Path.decode?_encode (fun _ => nofun) _
  rw [decode?, encode, Doc.fields?_toDoc (by simp) (by simp)]
  simp [Doc.Fields.defaulted, Doc.Fields.find?, Path.decode?_encode, hdir]

lemma plain_encode (s : LauncherSettings) (depth : Nat) : s.encode.Plain (depth + 1) := by
  have hdir : (Json.option Path.encode s.exchangeDir).Plain depth :=
    plain_option (fun _ => by simp [Path.encode, Plain]) _
  simp [encode, Plain, PlainMembers, hdir, plain_uint64, Path.encode]

end LauncherSettings

namespace SupervisorSettings

lemma decode?_encode (s : SupervisorSettings) : decode? s.encode.toDoc = some s := by
  rw [decode?, encode, Doc.fields?_toDoc (by simp) (by simp)]
  simp [Doc.Fields.defaulted, Doc.Fields.find?]

lemma plain_encode (s : SupervisorSettings) (depth : Nat) : s.encode.Plain (depth + 1) := by
  simp [encode, Plain, PlainMembers, plain_uint64]

end SupervisorSettings

lemma HeapSize.decode?_encode {h : HeapSize} (hpos : 0 < h.bytes) :
    decode? h.encode.toDoc = some h := by
  have hback := h.parse?_text
  rw [if_pos hpos] at hback
  rw [decode?, encode, Doc.string?_toDoc, Option.bind_some, hback]

lemma HeapSize.plain_encode (h : HeapSize) (depth : Nat) : h.encode.Plain depth := by
  simp [encode, Plain]

/-! ### All records -/

/-- What is written as text is read back as it was, for every record of the library.  Where a
record holds free data, the objects in it are sorted, as free data always is, and the whole
encoding is plain: its numbers are integers of 64 bits and it nests no deeper than the reader
goes. -/
structure WireFaithful : Prop where
  /-- The order for a worker. -/
  payload : ∀ p : WorkPayload, p.params.Sorted → p.encode.Plain maxDepth →
    ComesBack WorkPayload.encode WorkPayload.decode? p
  /-- The answer of a worker, with a value that is free data or with a cause. -/
  record : ∀ r : ResultRecord, (∀ value, r = .success value → value.Sorted) →
    r.encode.Plain maxDepth → ComesBack ResultRecord.encode ResultRecord.decode? r
  /-- The cause of a failure. -/
  cause : ∀ c : FailureCause, ComesBack FailureCause.encode FailureCause.decode? c
  /-- What is needed to build an artifact. -/
  manifest : ∀ m : BuildManifest, m.flow.Sorted → m.encode.Plain maxDepth →
    ComesBack BuildManifest.encode BuildManifest.decode? m
  /-- A probe. -/
  probe : ∀ p : Probe, ComesBack Probe.encode Probe.decode? p
  /-- What is handed to a cluster. -/
  artifact : ∀ a : JobArtifact, a.flow.Sorted → a.encode.Plain maxDepth →
    ComesBack JobArtifact.encode JobArtifact.decode? a
  /-- The identity of a job. -/
  identity : ∀ i : JobIdentity, i.flow.Sorted → i.encode.Plain maxDepth →
    ComesBack JobIdentity.encode JobIdentity.decode? i
  /-- An event of a container. -/
  event : ∀ e : EventPayload, ComesBack EventPayload.encode EventPayload.decode? e
  /-- A retry policy. -/
  policy : ∀ p : RetryPolicy, ComesBack RetryPolicy.encode RetryPolicy.decode? p
  /-- How workers are launched. -/
  launcher : ∀ s : LauncherSettings, ComesBack LauncherSettings.encode LauncherSettings.decode? s
  /-- How containers are supervised. -/
  supervisor : ∀ s : SupervisorSettings,
    ComesBack SupervisorSettings.encode SupervisorSettings.decode? s
  /-- A heap size that is not nothing. -/
  heap : ∀ h : HeapSize, 0 < h.bytes → ComesBack HeapSize.encode HeapSize.decode? h

theorem wireFaithful : WireFaithful where
  payload _ hsorted hplain := .of_law (WorkPayload.decode?_encode hsorted) hplain
  record _ hsorted hplain := .of_law (ResultRecord.decode?_encode hsorted) hplain
  cause c := .of_law c.decode?_encode (c.plain_encode 125)
  manifest _ hsorted hplain := .of_law (BuildManifest.decode?_encode hsorted) hplain
  probe p := .of_law p.decode?_encode (p.plain_encode 125)
  artifact _ hsorted hplain := .of_law (JobArtifact.decode?_encode hsorted) hplain
  identity _ hsorted hplain := .of_law (JobIdentity.decode?_encode hsorted) hplain
  event e := .of_law e.decode?_encode (e.plain_encode 126)
  policy p := .of_law p.decode?_encode (p.plain_encode 126)
  launcher s := .of_law s.decode?_encode (s.plain_encode 126)
  supervisor s := .of_law s.decode?_encode (s.plain_encode 126)
  heap h hpos := .of_law (HeapSize.decode?_encode hpos) (h.plain_encode maxDepth)

/-- A payload with a line break and quotes in its kind, the least and the greatest numbers, and
objects inside a list. -/
def intricatePayload : WorkPayload :=
  ⟨1, "two \"lines\"\n",
    .obj [("a", .arr [.int (-0x8000000000000000), .nat 0xffffffffffffffff, .obj []]),
      ("b", .obj [("", .null), ("é", .bool true)])],
    [⟨"/opt/λ"⟩, ⟨""⟩]⟩

theorem wireFaithful_intricate :
    ComesBack WorkPayload.encode WorkPayload.decode? intricatePayload := by
  refine wireFaithful.payload intricatePayload ?_ ?_
  · have hkeys : "" < "é" ∧ "a" < "b" := by decide
    simpa [intricatePayload, Sorted, SortedItems, SortedMembers, Json.int, Json.nat] using hkeys
  · simp [intricatePayload, WorkPayload.encode, Path.encode, Plain, PlainItems, PlainMembers,
      Json.int, Json.nat, maxDepth]

end JobSupervision
