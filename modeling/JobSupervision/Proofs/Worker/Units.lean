/-
# The units of work of a standard worker

A standard worker decodes the parameters of a probe and of a manifest as they were encoded and
executes them (`Probe.dispatch?_eq`, `BuildManifest.dispatch?_eq`).  What they give is a value of
their output type, which the launching side reads back (`Probe.exists_result`,
`BuildManifest.exists_result`).
-/
import JobSupervision.Launch.Work
import JobSupervision.Worker.Run
import JobSupervision.Proofs.Worker.Codecs

namespace JobSupervision

open Json

variable {ctx : WorkerContext} {fs : FileSystem} {output : Json}

/-! ### Files -/

namespace Worker

variable {registry : WorkRegistry}

/-- Whether no unit of work changes any files. -/
def Spares (registry : WorkRegistry) : Prop :=
  ∀ k ∈ registry.kinds, ∀ params ctx fs, k.leaves params ctx fs = fs

lemma filesLeft_of_spares (h : Spares registry) (payload : WorkPayload) (ctx : WorkerContext)
    (fs : FileSystem) : filesLeft registry payload ctx fs = fs := by
  rw [filesLeft]
  split
  · next k hk => exact h k (List.mem_of_find?_eq_some hk) _ _ _
  · rfl

lemma spares_standardRegistry : Spares standardRegistry := by
  intro k hk params ctx fs
  have hkinds : k = Probe.kind ∨ k = BuildManifest.kind := by
    simpa [standardRegistry, WorkRegistry.register, WorkRegistry.empty, BuildManifest.kind,
      Probe.kind, BuildManifest.kindName, Probe.kindName] using hk
  rcases hkinds with rfl | rfl
  · rfl
  · rfl

end Worker

/-! ### Probes -/

namespace Probe

theorem dispatch?_eq (p : Probe) (classpath : List Path) :
    Worker.dispatch? Worker.standardRegistry
      ⟨WorkPayload.currentVersion, kindName, p.encode.sorted, classpath⟩ ctx fs =
        some p.execute := by
  have hfind : Worker.standardRegistry.find? kindName = some kind :=
    WorkRegistry.find?_register _ kind
  simp [Worker.dispatch?, hfind, kind, decode?_sorted]

lemma plain_int64 (n : Int64) (depth : Nat) : (Json.int n.toInt).Plain depth := by
  have hlow := n.le_toInt
  have hhigh := n.toInt_lt
  exact plain_int (by omega) (by omega) depth

lemma plain_encode (p : Probe) (depth : Nat) : p.encode.Plain (depth + 2) := by
  cases p with
  | value v => simp [encode, Plain, PlainMembers, plain_int64]
  | divide n d => simp [encode, Plain, PlainMembers, plain_int64]
  | echo lines => simp [encode, Plain, PlainMembers, plain_strings]
  | echoThenFail lines message => simp [encode, Plain, PlainMembers, plain_strings]
  | sleep millis =>
    have hmillis := millis.toNat_lt
    have hplain := plain_nat (n := millis.toNat) (by omega) (depth + 1)
    simp [encode, Plain, PlainMembers, hplain]
  | exit code =>
    have hlow := code.le_toInt
    have hhigh := code.toInt_lt
    have hplain := plain_int (n := code.toInt) (by omega) (by omega) (depth + 1)
    simp [encode, Plain, PlainMembers, hplain]

lemma exists_value {p : Probe} (h : p.execute.ending = .value output) :
    ∃ v : Int64, Json.int v.toInt = output := by
  cases p with
  | value v =>
    cases h
    exact ⟨v, rfl⟩
  | divide n d =>
    rw [execute] at h
    split at h
    · next q hq =>
      cases h
      exact ⟨q, rfl⟩
    · cases h
  | echo lines =>
    cases h
    exact ⟨_, rfl⟩
  | echoThenFail lines message => cases h
  | sleep millis =>
    simp only [execute] at h
    split at h
    · next hle =>
      cases h
      have hhigh : (millis.toNat : Int) ≤ 0x7fffffffffffffff := hle
      refine ⟨.ofInt millis.toNat, ?_⟩
      rw [Int64.toInt_ofInt_of_le (by omega) (by omega)]
      rfl
    · cases h
  | exit code => cases h

/-- The launching side reads the number that a probe gives. -/
theorem exists_result {p : Probe} (h : p.execute.ending = .value output) (depth : Nat) :
    output.Plain depth ∧
      ∃ v : Int64, Json.int v.toInt = output ∧ workType.result? output.sorted.toDoc = some v := by
  obtain ⟨v, rfl⟩ := exists_value h
  have hsorted : (Json.int v.toInt).sorted = .int v.toInt := by rw [Json.int, sorted]
  refine ⟨plain_int64 v depth, v, rfl, ?_⟩
  rw [hsorted]
  exact Doc.int64?_toDoc v

end Probe

/-! ### Manifests -/

namespace BuildManifest

variable {b : BuildManifest} {depth : Nat}

theorem dispatch?_eq (h : b.flow.Sorted) (classpath : List Path) :
    Worker.dispatch? Worker.standardRegistry
      ⟨WorkPayload.currentVersion, kindName, b.encode.sorted, classpath⟩ ctx fs =
        some (b.execute ctx fs) := by
  have hother : ¬ Probe.kindName = kindName := by decide
  have hfind : Worker.standardRegistry.find? kindName = some kind := by
    simp [Worker.standardRegistry, WorkRegistry.register, WorkRegistry.find?, WorkRegistry.empty,
      kind, Probe.kind, hother, Ne.symm hother]
  simp [Worker.dispatch?, hfind, kind, decode?_sorted h]

lemma plain_encode (h : b.flow.Plain (depth + 1)) : b.encode.Plain (depth + 2) := by
  simp [encode, Plain, PlainMembers, JobId.encode, h, Path.plainItems_encode]

lemma ending_execute_of_build {a : JobArtifact} (h : (b.build ctx fs).2 = .ok a) :
    (b.execute ctx fs).ending = .value a.encode := by
  rw [execute]
  split
  · next lines artifact heq =>
    rw [heq] at h
    cases h
    rfl
  · next lines cause heq =>
    rw [heq] at h
    cases h

lemma exists_value (h : (b.execute ctx fs).ending = .value output) :
    ∃ a : JobArtifact, a.encode = output ∧ a.flow = b.flow := by
  have hflow {lines : List String} {a : JobArtifact} (hbuild : b.build ctx fs = (lines, .ok a)) :
      a.flow = b.flow := by
    simp only [build] at hbuild
    split at hbuild
    · cases hbuild
    · split at hbuild
      · cases hbuild
      · cases hbuild
        rfl
  rw [execute] at h
  split at h
  · next lines a hbuild =>
    cases h
    exact ⟨a, rfl, hflow hbuild⟩
  · cases h

/-- The launching side reads the artifact that a manifest gives. -/
theorem exists_result (hsorted : b.flow.Sorted) (hplain : b.flow.Plain (depth + 1))
    (h : (b.execute ctx fs).ending = .value output) :
    output.Plain (depth + 2) ∧
      ∃ a : JobArtifact, a.encode = output ∧ workType.result? output.sorted.toDoc = some a := by
  obtain ⟨a, rfl, hflow⟩ := exists_value h
  rw [← hflow] at hsorted hplain
  refine ⟨?_, a, rfl, JobArtifact.decode?_sorted hsorted⟩
  simp [JobArtifact.encode, Plain, PlainMembers, JobId.encode, hplain, Path.plainItems_encode]

end BuildManifest

end JobSupervision
