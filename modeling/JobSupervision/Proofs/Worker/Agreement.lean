/-
# Exit codes and records

The launching side trusts the exit code of a worker together with the record it finds.  A worker
that has nothing to report, because it was asked for nothing it could do or got a value that cannot
be encoded (`Worker.Refuses`), says so by its exit code and touches no file.  Every other one whose
unit of work returns has something to report (`Worker.Reports`): then its exit code tells whether
the record is at its place, where it is read as it was meant, or could not be written, and then the
place is as the unit of work left it (`Worker.agrees_run`).
-/
import JobSupervision.Proofs.Worker.Delivery
import JobSupervision.Proofs.Worker.Placement
import JobSupervision.Proofs.Worker.Units

namespace JobSupervision

/-! ### Payloads -/

namespace WorkPayload

variable {fs : FileSystem} {path : Path} {payload : WorkPayload}

/-- Whether a file holds a payload, of whatever version. -/
def Holds (fs : FileSystem) (path : Path) (payload : WorkPayload) : Prop :=
  ∃ content, fs.read path = .ok content ∧
    (Json.Doc.parseBytes? content).bind decode? = some payload

lemma readFrom_eq_ok_iff :
    readFrom fs path = .ok payload ↔ Holds fs path payload ∧ payload.version = currentVersion := by
  constructor
  · intro h
    rw [readFrom] at h
    split at h
    · cases h
    next content hread =>
    split at h
    · cases h
    next there hthere =>
    split_ifs at h with hversion
    cases h
    exact ⟨⟨content, hread, hthere⟩, hversion⟩
  · rintro ⟨⟨content, hread, hthere⟩, hversion⟩
    rw [readFrom, hread]
    simp only [hthere, if_pos hversion]

end WorkPayload

/-! ### Records -/

lemma ResultRecord.ofBytes?_bytes_of_plain {output : Json}
    (h : (ResultRecord.success output.sorted).encode.Plain Json.maxDepth) :
    ofBytes? (success output.sorted).bytes = some (success output.sorted) := by
  refine ofBytes?_bytes ⟨Json.sorted_sorted output, ?_⟩
  simpa [encode, Json.Plain, Json.PlainMembers, Json.maxDepth] using h

namespace Worker

variable {registry : WorkRegistry} {args : WorkerArguments} {fs left : FileSystem}
  {payload : WorkPayload} {e : UnitExecution} {record : ResultRecord}

/-! ### What a worker has to report -/

/-- Whether the unit of work that the payload asks for is executed, and which files it leaves. -/
inductive Executes (registry : WorkRegistry) (args : WorkerArguments) (fs : FileSystem) :
    UnitExecution → FileSystem → Prop
  | intro {payload : WorkPayload} {k : WorkKind} {e : UnitExecution}
      (hpayload : WorkPayload.Holds fs args.payload payload)
      (hversion : payload.version = WorkPayload.currentVersion)
      (hkind : registry.find? payload.kind = some k)
      (hexecute : k.execute? payload.params (context args payload) fs = some e) :
      Executes registry args fs e (k.leaves payload.params (context args payload) fs)

/-- Why a worker has nothing to report, and which files there are then. -/
inductive Refuses (registry : WorkRegistry) (args : WorkerArguments) (fs : FileSystem) :
    FileSystem → Prop
  /-- The payload cannot be read. -/
  | unreadable {fault : FileFault} (hread : fs.read args.payload = .error fault) :
      Refuses registry args fs fs
  /-- What is read is no payload. -/
  | malformed {content : List UInt8} (hread : fs.read args.payload = .ok content)
      (hpayload : (Json.Doc.parseBytes? content).bind WorkPayload.decode? = none) :
      Refuses registry args fs fs
  /-- The payload has another form. -/
  | unsupported {payload : WorkPayload} (hpayload : WorkPayload.Holds fs args.payload payload)
      (hversion : payload.version ≠ WorkPayload.currentVersion) : Refuses registry args fs fs
  /-- The kind of work is not known. -/
  | unknownKind {payload : WorkPayload} (hpayload : WorkPayload.Holds fs args.payload payload)
      (hversion : payload.version = WorkPayload.currentVersion)
      (hkind : registry.find? payload.kind = none) : Refuses registry args fs fs
  /-- The parameters are not parameters of this kind. -/
  | badParameters {payload : WorkPayload} {k : WorkKind}
      (hpayload : WorkPayload.Holds fs args.payload payload)
      (hversion : payload.version = WorkPayload.currentVersion)
      (hkind : registry.find? payload.kind = some k)
      (hexecute : k.execute? payload.params (context args payload) fs = none) :
      Refuses registry args fs fs
  /-- The value of the unit of work cannot be encoded. -/
  | unencodable {e : UnitExecution} {left : FileSystem}
      (hexecutes : Executes registry args fs e left) (hending : e.ending = .unencodable) :
      Refuses registry args fs left

/-- What a worker has to report, and the files that the unit of work left. -/
inductive Reports (registry : WorkRegistry) (args : WorkerArguments) (fs : FileSystem) :
    ResultRecord → FileSystem → Prop
  /-- The unit of work gave a value. -/
  | value {e : UnitExecution} {left : FileSystem} {output : Json}
      (hexecutes : Executes registry args fs e left) (hending : e.ending = .value output) :
      Reports registry args fs (.success output.sorted) left
  /-- The unit of work failed. -/
  | failure {e : UnitExecution} {left : FileSystem} {cause : FailureCause}
      (hexecutes : Executes registry args fs e left) (hending : e.ending = .failure cause) :
      Reports registry args fs (.failure cause) left

lemma run_of_executes (h : Executes registry args fs e left) :
    run registry args fs = finish args left e := by
  obtain ⟨hpayload, hversion, hkind, hexecute⟩ := h
  rw [run, WorkPayload.readFrom_eq_ok_iff.2 ⟨hpayload, hversion⟩]
  simp [dispatch?, filesLeft, hkind, hexecute]

/-- A worker that executes nothing ends at once. -/
lemma executes_or_refuses (registry : WorkRegistry) (args : WorkerArguments) (fs : FileSystem) :
    (∃ e left, Executes registry args fs e left) ∨
      Refuses registry args fs fs ∧ run registry args fs = ⟨[], 0, exitBadPayload, fs⟩ := by
  cases hpayload : WorkPayload.readFrom fs args.payload with
  | error fault =>
    refine .inr ⟨?_, run_of_read_error hpayload⟩
    rw [WorkPayload.readFrom] at hpayload
    split at hpayload
    next hread => exact .unreadable hread
    next content hread =>
    split at hpayload
    next hmalformed => exact .malformed hread hmalformed
    next payload hthere =>
    split_ifs at hpayload with hversion
    exact .unsupported ⟨content, hread, hthere⟩ hversion
  | ok payload =>
    obtain ⟨hholds, hversion⟩ := WorkPayload.readFrom_eq_ok_iff.1 hpayload
    cases hkind : registry.find? payload.kind with
    | none =>
      refine .inr ⟨.unknownKind hholds hversion hkind, ?_⟩
      simp [run, hpayload, dispatch?, hkind]
    | some k =>
      cases hexecute : k.execute? payload.params (context args payload) fs with
      | none =>
        refine .inr ⟨.badParameters hholds hversion hkind hexecute, ?_⟩
        simp [run, hpayload, dispatch?, hkind, hexecute]
      | some e => exact .inl ⟨e, _, .intro hholds hversion hkind hexecute⟩

lemma run_of_refuses (h : Refuses registry args fs left) :
    (run registry args fs).exitCode = exitBadPayload ∧ (run registry args fs).files = left := by
  have hnothing {fault : PayloadFault}
      (hfault : WorkPayload.readFrom fs args.payload = .error fault) :
      (run registry args fs).exitCode = exitBadPayload ∧ (run registry args fs).files = fs := by
    rw [run_of_read_error hfault]
    exact ⟨rfl, rfl⟩
  cases h with
  | unreadable hread => exact hnothing (by rw [WorkPayload.readFrom, hread])
  | malformed hread hpayload =>
    have hfault : WorkPayload.readFrom fs args.payload = .error (.malformed args.payload) := by
      rw [WorkPayload.readFrom, hread]
      simp only [hpayload]
    exact hnothing hfault
  | @unsupported payload hpayload hversion =>
    obtain ⟨content, hread, hthere⟩ := hpayload
    have hfault : WorkPayload.readFrom fs args.payload = .error (.unsupported payload.version) := by
      rw [WorkPayload.readFrom, hread]
      simp only [hthere, if_neg hversion]
    exact hnothing hfault
  | unknownKind hpayload hversion hkind =>
    have hread := WorkPayload.readFrom_eq_ok_iff.2 ⟨hpayload, hversion⟩
    simp [run, hread, dispatch?, hkind]
  | badParameters hpayload hversion hkind hexecute =>
    have hread := WorkPayload.readFrom_eq_ok_iff.2 ⟨hpayload, hversion⟩
    simp [run, hread, dispatch?, hkind, hexecute]
  | unencodable hexecutes hending =>
    rw [run_of_executes hexecutes, finish, hending]
    exact ⟨rfl, rfl⟩

/-! ### What the launching side finds -/

/-- Whether the record is at its place, where it is read as it was meant, or its place is as the
unit of work left it, and the exit code tells which. -/
inductive Concludes (args : WorkerArguments) (record : ResultRecord) (left : FileSystem) (r : Run) :
    Prop
  /-- The record is at its place. -/
  | recorded {content : List UInt8} (hcode : r.exitCode = exitSuccess)
      (hread : r.files.read args.result = .ok content)
      (hrecord : ResultRecord.ofBytes? content = some record) : Concludes args record left r
  /-- The record could not be written. -/
  | unrecorded (hcode : r.exitCode = exitRecordUnwritten)
      (hplace : r.files.lookup args.result = left.lookup args.result) : Concludes args record left r

lemma concludes_finish (h : record? e.ending = some record)
    (hbytes : ResultRecord.ofBytes? record.bytes = some record) :
    Concludes args record left (finish args left e) := by
  have hwrites := record.writes_writeAtomic left args.result
  rw [finish]
  split
  · next code hexits =>
    rw [hexits] at h
    cases h
  · rw [h]
    dsimp only
    cases hresult : record.writeAtomic left args.result with
    | mk answer after =>
      rw [hresult] at hwrites
      cases answer with
      | ok _ => exact .recorded rfl hwrites.read_of_ok hbytes
      | error fault => exact .unrecorded rfl hwrites.lookup_of_error

lemma Concludes.exitCode_ne {r : Run} (h : Concludes args record left r) :
    r.exitCode ≠ exitBadPayload := by
  cases h with
  | recorded hcode _ _ =>
    rw [hcode]
    decide
  | unrecorded hcode _ =>
    rw [hcode]
    decide

/-- What a worker has to report can be read as it was meant. -/
lemma ofBytes?_of_reports (h : Reports registry args fs record left)
    (hplain : record.encode.Plain Json.maxDepth) :
    ResultRecord.ofBytes? record.bytes = some record := by
  cases h with
  | value _ _ => exact ResultRecord.ofBytes?_bytes_of_plain hplain
  | failure _ _ => exact ResultRecord.ofBytes?_bytes trivial

/-- A unit of work that returns gives something to report, unless it cannot be encoded. -/
lemma reports_or_refuses (h : Executes registry args fs e left)
    (hreturns : ∀ code, e.ending ≠ .exits code) :
    (∃ record, record? e.ending = some record ∧ Reports registry args fs record left) ∨
      Refuses registry args fs left := by
  cases hending : e.ending with
  | value output => exact .inl ⟨_, rfl, .value h hending⟩
  | failure cause => exact .inl ⟨_, rfl, .failure h hending⟩
  | unencodable => exact .inr (.unencodable h hending)
  | exits code => exact absurd hending (hreturns code)

/-- Whether the exit code of a worker and the record agree. -/
structure Agrees (registry : WorkRegistry) (args : WorkerArguments) (fs : FileSystem) (r : Run) :
    Prop where
  /-- The exit code tells that there is nothing to report if there is not. -/
  refused_iff : r.exitCode = exitBadPayload ↔ ∃ left, Refuses registry args fs left
  /-- Then the worker leaves the files alone. -/
  untouched : ∀ {left}, Refuses registry args fs left → r.files = left
  /-- Otherwise there is something to report, and the exit code tells whether it is at its place. -/
  concluded : r.exitCode ≠ exitBadPayload →
    ∃ record left, Reports registry args fs record left ∧ Concludes args record left r

/-- The exit code of a worker whose unit of work returns and the record it leaves agree, if numbers
fit into words and the record is not nested too deeply to be read. -/
theorem agrees_run
    (hreturns : ∀ {e left}, Executes registry args fs e left → ∀ code, e.ending ≠ .exits code)
    (hplain : ∀ {record left}, Reports registry args fs record left →
      record.encode.Plain Json.maxDepth) :
    Agrees registry args fs (run registry args fs) := by
  -- a worker that executes its unit of work reports what it gave, and any other one refuses
  have hcases : (∃ left, Refuses registry args fs left) ∨ ∃ record left,
      Reports registry args fs record left ∧
        Concludes args record left (run registry args fs) := by
    rcases executes_or_refuses registry args fs with ⟨e, left, hexecutes⟩ | ⟨hrefuses, -⟩
    · rcases reports_or_refuses hexecutes (hreturns hexecutes) with
        ⟨record, hrecord, hreports⟩ | hrefuses
      · refine .inr ⟨record, left, hreports, ?_⟩
        rw [run_of_executes hexecutes]
        exact concludes_finish hrecord (ofBytes?_of_reports hreports (hplain hreports))
      · exact .inl ⟨left, hrefuses⟩
    · exact .inl ⟨fs, hrefuses⟩
  constructor
  · constructor
    · intro hcode
      rcases hcases with hrefuses | ⟨record, left, -, hconcludes⟩
      · exact hrefuses
      · exact absurd hcode hconcludes.exitCode_ne
    · rintro ⟨left, hrefuses⟩
      exact (run_of_refuses hrefuses).1
  · exact fun hrefuses => (run_of_refuses hrefuses).2
  · intro hcode
    rcases hcases with ⟨left, hrefuses⟩ | hconcludes
    · exact absurd (run_of_refuses hrefuses).1 hcode
    · exact hconcludes

/-- A probe that divides seven by two, asked for in a file. -/
theorem agrees_run_division :
    let order : WorkPayload :=
      ⟨WorkPayload.currentVersion, Probe.kindName, (Probe.divide 7 2).encode.sorted, []⟩
    let fs : FileSystem := ⟨[], [(["w".toList], .file order.bytes false)]⟩
    let args : WorkerArguments := ⟨⟨"w"⟩, ⟨"r"⟩, none, none, none, []⟩
    (∀ {e left}, Executes standardRegistry args fs e left → ∀ code, e.ending ≠ .exits code) ∧
      (∀ {record left}, Reports standardRegistry args fs record left →
        record.encode.Plain Json.maxDepth) ∧
      Agrees standardRegistry args fs (run standardRegistry args fs) := by
  intro order fs args
  have hfile : fs.read args.payload = .ok order.bytes := by
    have hlocate : fs.locate args.payload = .ok ["w".toList] := by decide
    have hlookup : fs.lookup args.payload = .ok (.file order.bytes false) :=
      (FileSystem.lookup_eq_ok_iff hlocate).2 rfl
    rw [FileSystem.read, hlookup]
    rfl
  have hread : WorkPayload.readFrom fs args.payload = .ok order :=
    WorkPayload.readFrom_bytes hfile rfl (Json.sorted_sorted _)
      (WorkPayload.plain_encode (Probe.plain_encode _ 124).sorted)
  have hexecution {e : UnitExecution} {left : FileSystem}
      (h : Executes standardRegistry args fs e left) : e = (Probe.divide 7 2).execute := by
    obtain ⟨hpayload, hversion, hkind, hexecute⟩ := h
    have hsame := WorkPayload.readFrom_eq_ok_iff.2 ⟨hpayload, hversion⟩
    rw [hread] at hsame
    obtain rfl := Except.ok.inj hsame
    have hdispatch : dispatch? standardRegistry order (context args order) fs =
        some (Probe.divide 7 2).execute := Probe.dispatch?_eq (.divide 7 2) []
    rw [dispatch?, hkind] at hdispatch
    exact Option.some.inj (hexecute.symm.trans hdispatch)
  have hvalue : (Probe.divide 7 2).execute.ending = .value (.int 3) := rfl
  have hreturns {e : UnitExecution} {left : FileSystem}
      (h : Executes standardRegistry args fs e left) (code : Int) : e.ending ≠ .exits code := by
    intro hexits
    rw [hexecution h, hvalue] at hexits
    cases hexits
  have hplain {record : ResultRecord} {left : FileSystem}
      (h : Reports standardRegistry args fs record left) :
      record.encode.Plain Json.maxDepth := by
    cases h with
    | value hexecutes hending =>
      rw [hexecution hexecutes] at hending
      exact ResultRecord.plain_encode
        ⟨Json.sorted_sorted _, (Probe.exists_result hending 126).1.sorted⟩
    | failure _ _ => exact ResultRecord.plain_encode trivial
  exact ⟨hreturns, hplain, agrees_run hreturns hplain⟩

end Worker

end JobSupervision
