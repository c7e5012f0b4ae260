/-
# Artifacts that are handed to a cluster

The manifest of a job names the files of its dependencies by absolute paths (`JobIdentity.Lists`),
so a worker finds them whatever its classpath and its working directory
(`BuildManifest.resolveAll_forJob`).  A build therefore gives the artifact unless the flow is no
object or the launch does not go as it should (`ArtifactSubmitter.exists_build`), and the cluster is
called exactly when there is an artifact (`ArtifactSubmitter.handsOver_submit`).
-/
import JobSupervision.Cluster.ArtifactSubmitter
import JobSupervision.Proofs.Launch.Fidelity

namespace JobSupervision

variable {σ : Type}

/-! ### Dependencies -/

lemma Path.isAbsolute_of_absolute? {dir p q : Path} (hdir : dir.isAbsolute = true)
    (h : Path.absolute? dir p = some q) : q.isAbsolute = true := by
  simp only [Path.absolute?] at h
  split at h
  · cases h
  split at h
  · rw [← Option.some.inj h]
    split_ifs <;> simp [Path.isAbsolute, Path.startsAtRoot]
  split at h
  · rw [← Option.some.inj h]
    split_ifs
    · exact Path.isAbsolute_join hdir _
    · exact hdir
  · rw [← Option.some.inj h]
    exact Path.isAbsolute_join hdir _

namespace JobIdentity

variable {fs : FileSystem} {identity : JobIdentity} {base d p : Path}

lemma isAbsolute_of_resolve? (h : resolve? fs base d = some p) : p.isAbsolute = true := by
  rw [resolve?] at h
  split_ifs at h with habsolute
  · cases h
    exact habsolute
  · exact Path.isAbsolute_of_absolute? (Machine.isAbsolute_here fs) h

lemma mem_resolvedDependencies :
    p ∈ identity.resolvedDependencies fs ↔ fs.isFile p = true ∧
      ∃ d ∈ identity.dependencies, resolve? fs identity.workDir d = some p := by
  rw [resolvedDependencies, List.mem_filterMap]
  constructor
  · rintro ⟨d, hd, hp⟩
    cases hresolve : resolve? fs identity.workDir d with
    | none => simp [hresolve] at hp
    | some q =>
      simp only [hresolve, Option.ite_none_right_eq_some, Option.some.injEq] at hp
      obtain ⟨hfile, rfl⟩ := hp
      exact ⟨hfile, d, hd, hresolve⟩
  · rintro ⟨hfile, d, hd, hresolve⟩
    exact ⟨d, hd, by simp [hresolve, hfile]⟩

/-- Whether some paths are the files of the dependencies of a job. -/
structure Lists (fs : FileSystem) (identity : JobIdentity) (paths : List Path) : Prop where
  /-- They start at the root. -/
  absolute : ∀ p ∈ paths, p.isAbsolute = true
  /-- They are files. -/
  files : ∀ p ∈ paths, fs.isFile p = true
  /-- There is one for each dependency that leads to a file, in the order of the dependencies. -/
  inOrder : paths.map some =
    (identity.dependencies.map (resolve? fs identity.workDir)).filter fun p? =>
      p?.any fun p => fs.isFile p

lemma lists_resolvedDependencies (fs : FileSystem) (identity : JobIdentity) :
    Lists fs identity (identity.resolvedDependencies fs) := by
  refine ⟨?_, ?_, ?_⟩
  · intro p hp
    obtain ⟨-, d, -, hresolve⟩ := mem_resolvedDependencies.1 hp
    exact isAbsolute_of_resolve? hresolve
  · intro p hp
    exact (mem_resolvedDependencies.1 hp).1
  · rw [resolvedDependencies]
    induction identity.dependencies with
    | nil => rfl
    | cons d rest ih =>
      cases hresolve : resolve? fs identity.workDir d with
      | none => simpa [hresolve] using ih
      | some p => by_cases hfile : fs.isFile p = true <;> simpa [hresolve, hfile] using ih

end JobIdentity

/-! ### Manifests -/

namespace BuildManifest

variable {fs fs' : FileSystem} {ctx : WorkerContext} {identity : JobIdentity}

lemma resolveAll_of_files {paths : List Path}
    (h : ∀ p ∈ paths, p.isAbsolute = true ∧ fs.isFile p = true) :
    resolveAll ctx fs paths = (paths, none) := by
  induction paths with
  | nil => rfl
  | cons p rest ih =>
    obtain ⟨habsolute, hfile⟩ := h p List.mem_cons_self
    have hrest := ih fun q hq => h q (List.mem_cons_of_mem p hq)
    simp [resolveAll, resolve?, habsolute, hfile, hrest]

/-- A worker that finds all files of the launching side finds all dependencies of a manifest,
whatever its classpath and its working directory. -/
theorem resolveAll_forJob (h : fs.Retains fs') :
    resolveAll ctx fs' (forJob fs identity).dependencies =
      (identity.resolvedDependencies fs, none) := by
  have hlists := JobIdentity.lists_resolvedDependencies fs identity
  exact resolveAll_of_files fun p hp =>
    ⟨hlists.absolute p hp, h.isFile (hlists.absolute p hp) (hlists.files p hp)⟩

/-- The artifact of a job. -/
def artifactOf (fs : FileSystem) (identity : JobIdentity) : JobArtifact :=
  ⟨identity.jobId, flowDigest identity.flow, identity.resolvedDependencies fs, identity.flow⟩

lemma ending_execute_of_object (h : fs.Retains fs') (hobject : isObject identity.flow = true) :
    ((forJob fs identity).execute ctx fs').ending = .value (artifactOf fs identity).encode := by
  have hflow : isObject (forJob fs identity).flow = true := hobject
  have hbuild : ((forJob fs identity).build ctx fs').2 = .ok (artifactOf fs identity) := by
    simp only [build, hflow, resolveAll_forJob h]
    rfl
  exact ending_execute_of_build hbuild

/-- The only thing that is wrong with the manifest of a job is a flow that is no object. -/
lemma ending_execute_of_not_object (hobject : isObject identity.flow = false) :
    ((forJob fs identity).execute ctx fs').ending =
      .failure ⟨"InvalidFlow", "flow of job " ++ identity.jobId.text ++ " is not a JSON object",
        []⟩ := by
  have hflow : isObject (forJob fs identity).flow = false := hobject
  simp only [execute, build, hflow]
  rfl

end BuildManifest

lemma JobArtifact.encode_injective {a b : JobArtifact} (h : a.encode = b.encode) : a = b := by
  obtain ⟨⟨job⟩, digest, dependencies, flow⟩ := a
  obtain ⟨⟨job'⟩, digest', dependencies', flow'⟩ := b
  have hpath : Function.Injective Path.encode := by
    rintro ⟨p⟩ ⟨q⟩ hpq
    cases hpq
    rfl
  simp only [encode, JobId.encode, Json.obj.injEq, List.cons.injEq, Prod.mk.injEq, Json.str.injEq,
    Json.arr.injEq, true_and, and_true] at h
  obtain ⟨rfl, rfl, hdependencies, rfl⟩ := h
  cases List.map_injective_iff.2 hpath hdependencies
  rfl

/-! ### Builds -/

namespace Launched

variable {V : Type} {l : Launched V} {time : Nat}

/-- Whether a launch has its outcome within some milliseconds, if there is a limit. -/
def FinishesWithin (l : Launched V) (limitMs : Option Nat) : Prop :=
  ∃ time, l.settlesAt? l.startedAt = some time ∧ ∀ limit ∈ limitMs, time ≤ l.startedAt + limit

lemma Untouched.finishesWithin_iff (h : l.Untouched time) (limitMs : Option Nat) :
    l.FinishesWithin limitMs ↔ ∀ limit ∈ limitMs, time ≤ l.startedAt + limit := by
  constructor
  · rintro ⟨time', htime, hlimit⟩
    rw [h.settlesAt?] at htime
    cases htime
    exact hlimit
  · intro hlimit
    exact ⟨time, h.settlesAt? _, hlimit⟩

lemma Untouched.outcome_of_settles (h : l.Untouched time) {outcome : LaunchOutcome V}
    (hsettles : l.Settles outcome) : l.outcome = outcome :=
  h.settles.unique hsettles

lemma Untouched.outcome_of_breaks (h : l.Untouched time) {code : Nat} (hbreaks : l.Breaks code) :
    ∃ e, l.outcome = .error e := by
  obtain ⟨-, message, diagnostics, hsettles⟩ := hbreaks
  exact ⟨_, h.outcome_of_settles hsettles⟩

end Launched

namespace ArtifactSubmitter

variable {s : ArtifactSubmitter} {m m' : Machine} {identity : JobIdentity}
  {c : LaunchConfiguration BuildManifest} {l : Launched JobArtifact} {registry : WorkRegistry}

lemma configuration_eq_ok (s : ArtifactSubmitter) (fs : FileSystem) (identity : JobIdentity) :
    ∃ c, s.configuration fs identity = .ok c ∧ c.work = .forJob fs identity :=
  ⟨_, rfl, rfl⟩

/-- Whether the worker that builds the artifact of a job can be launched, accepts its arguments and
finishes in time. -/
def Completes (s : ArtifactSubmitter) (m : Machine) (identity : JobIdentity) : Prop :=
  ∃ c m' l, s.configuration m.files identity = .ok c ∧
    m.launch s.settings BuildManifest.workType c = (m', .ok l) ∧ m.Accepts s.settings c ∧
    l.FinishesWithin s.buildTimeoutMs

lemma completes_iff (hc : s.configuration m.files identity = .ok c)
    (h : m.launch s.settings BuildManifest.workType c = (m', .ok l)) :
    s.Completes m identity ↔ m.Accepts s.settings c ∧ l.FinishesWithin s.buildTimeoutMs := by
  constructor
  · rintro ⟨c', m'', l', hc', h', hdone⟩
    cases hc.symm.trans hc'
    cases h.symm.trans h'
    exact hdone
  · intro hdone
    exact ⟨c, m', l, hc, h, hdone⟩

lemma not_completes_of_error {e : LaunchError} (hc : s.configuration m.files identity = .ok c)
    (h : m.launch s.settings BuildManifest.workType c = (m', .error e)) :
    ¬ s.Completes m identity := by
  rintro ⟨c', m'', l', hc', h', -⟩
  cases hc.symm.trans hc'
  cases h.symm.trans h'

/-- Whether the artifact of a job gets built. -/
structure Builds (s : ArtifactSubmitter) (m : Machine) (identity : JobIdentity) : Prop where
  /-- The flow is an object. -/
  object : BuildManifest.isObject identity.flow = true
  /-- The worker does what it is launched for. -/
  completes : s.Completes m identity
  /-- The worker can write its record. -/
  writes : m.RecordFits s.settings

section Await

variable {time now : Nat} {ending : Nat × ProgramEnd} {held : Nat}

/-- A build is awaited to its end, whatever the answer to the first wait is. -/
lemma exists_await {later : Nat} {outcome : LaunchOutcome JobArtifact} {l' : Launched JobArtifact}
    (hend : l.run.ending = some ending) (hheld : l.run.letGo = some held) (hrun : l'.run = l.run)
    (hwait : l.wait now s.buildTimeoutMs = some (later, outcome, l')) :
    ∃ later l', s.await now l = some (later, outcome, l') := by
  have hcancel : l'.cancel.run = l.run := hrun
  obtain ⟨⟨ended, answer, last⟩, hlast⟩ :=
    Launched.exists_wait (hcancel ▸ hend) (hcancel ▸ hheld) later
  rw [await, hwait]
  simp only [Option.bind_eq_bind, Option.bind_some]
  split
  · next limit _ heq =>
    cases heq
    simp only [hlast, Option.bind_some]
    exact ⟨_, _, rfl⟩
  · exact ⟨_, _, rfl⟩

/-- A build that finishes in time has the outcome of its worker, and one that takes too long is
stopped. -/
lemma await_of_untouched (h : l.Untouched time) (hend : l.run.ending = some ending)
    (hheld : l.run.letGo = some held) :
    (l.FinishesWithin s.buildTimeoutMs →
      ∃ later l', s.await l.startedAt l = some (later, l.outcome, l')) ∧
    (¬ l.FinishesWithin s.buildTimeoutMs →
      ∃ later limit l', s.await l.startedAt l = some (later, .error (.timedOut limit), l')) := by
  rw [h.finishesWithin_iff]
  cases hlimit : s.buildTimeoutMs with
  | none =>
    obtain ⟨l', hrun, hwait⟩ := h.wait_none l.startedAt
    rw [← hlimit] at hwait
    exact ⟨fun _ => exists_await hend hheld hrun hwait, fun hlate => absurd nofun hlate⟩
  | some limit =>
    by_cases hin : time ≤ l.startedAt + limit
    · obtain ⟨l', hrun, hwait⟩ := h.wait_of_le hin
      rw [← hlimit] at hwait
      refine ⟨fun _ => exists_await hend hheld hrun hwait, fun hlate => absurd ?_ hlate⟩
      rintro _ ⟨⟩
      exact hin
    · obtain ⟨l', hrun, hwait⟩ := h.wait_of_lt (Nat.not_le.1 hin)
      rw [← hlimit] at hwait
      refine ⟨fun hall => absurd (hall limit rfl) hin, fun _ => ?_⟩
      obtain ⟨later, l'', hawait⟩ := exists_await hend hheld hrun hwait
      exact ⟨later, _, l'', hawait⟩

end Await

/-- A build gives what the outcome of its launch holds. -/
lemma build_of_await {later : Nat} {outcome : LaunchOutcome JobArtifact}
    {l' : Launched JobArtifact} (hc : s.configuration m.files identity = .ok c)
    (h : m.launch s.settings BuildManifest.workType c = (m', .ok l))
    (hstarted : l.startedAt = m.clock)
    (hawait : s.await l.startedAt l = some (later, outcome, l')) :
    ∃ b, s.build m identity = some b ∧ b.result = outcome.bind ExecutionResult.intoValue := by
  have hclock : m'.clock = l.startedAt := by
    rw [hstarted, ← m.clock_launch s.settings BuildManifest.workType c, h]
  simp only [build, hc, buildFrom, h, buildOf, hclock, hawait, Option.map_some]
  exact ⟨_, rfl, rfl⟩

section Build

variable (hhosts : m.Hosts s.settings Worker.standardRegistry)

include hhosts

/-- The launch of the manifest of a job hands on what a worker makes of it that finds all files of
the launching side. -/
lemma handsOn_forJob (hwork : c.work = .forJob m.files identity)
    (h : m.launch s.settings BuildManifest.workType c = (m', .ok l))
    (haccepts : m.Accepts s.settings c) (hsorted : identity.flow.Sorted)
    (hplain : identity.flow.Plain 125) :
    ∃ fs, m.files.Retains fs ∧
      l.HandsOn s.settings JobArtifact.encode (m.RecordFits s.settings)
        ((BuildManifest.forJob m.files identity).execute c.context fs).ending := by
  have hflow : c.work.flow = identity.flow := by
    rw [hwork]
    rfl
  rw [← hflow] at hsorted hplain
  obtain ⟨fs, hprepares, hhands⟩ := Machine.handsOn_of_dispatch h hhosts
    Worker.spares_standardRegistry haccepts rfl (Json.sorted_sorted c.work.encode)
    (BuildManifest.plain_encode hplain).sorted
  have hends := hhands _ (BuildManifest.dispatch?_eq hsorted c.resolvedClasspath)
    fun output hvalue => BuildManifest.exists_result hsorted hplain hvalue
  rw [hwork] at hends
  exact ⟨fs, hprepares.retains hhosts.fresh, hends⟩

/-- The outcome of the worker that builds the artifact of a job: the artifact, or nothing to be had
if the worker does not accept its arguments, the flow is no object or the record cannot be
written. -/
lemma outcome_of_launch (hwork : c.work = .forJob m.files identity)
    (h : m.launch s.settings BuildManifest.workType c = (m', .ok l))
    (hsorted : identity.flow.Sorted) (hplain : identity.flow.Plain 125) :
    (m.Accepts s.settings c → BuildManifest.isObject identity.flow = true →
      m.RecordFits s.settings → l.outcome.bind ExecutionResult.intoValue =
        .ok (BuildManifest.artifactOf m.files identity)) ∧
    (¬ (m.Accepts s.settings c ∧ BuildManifest.isObject identity.flow = true ∧
        m.RecordFits s.settings) →
      ∃ e, l.outcome.bind ExecutionResult.intoValue = .error e) := by
  obtain ⟨time, -, huntouched, -⟩ := Machine.exists_untouched h hhosts
  have hbroken {code : Nat} (hbreaks : l.Breaks code) :
      ∃ e, l.outcome.bind ExecutionResult.intoValue = .error e := by
    obtain ⟨e, he⟩ := huntouched.outcome_of_breaks hbreaks
    rw [he]
    exact ⟨e, rfl⟩
  by_cases haccepts : m.Accepts s.settings c
  · obtain ⟨fs, hretains, hhands⟩ := handsOn_forJob hhosts hwork h haccepts hsorted hplain
    cases hobject : BuildManifest.isObject identity.flow with
    | true =>
      rw [BuildManifest.ending_execute_of_object hretains hobject] at hhands
      obtain ⟨hfits, hunfit⟩ := hhands
      constructor
      · intro _ _ hrecord
        obtain ⟨v, hencode, hsettles⟩ := hfits hrecord
        cases JobArtifact.encode_injective hencode
        rw [huntouched.outcome_of_settles hsettles]
        rfl
      · intro hno
        exact hbroken (hunfit fun hrecord => hno ⟨haccepts, rfl, hrecord⟩)
    | false =>
      rw [BuildManifest.ending_execute_of_not_object hobject] at hhands
      obtain ⟨hfits, hunfit⟩ := hhands
      refine ⟨nofun, fun _ => ?_⟩
      by_cases hrecord : m.RecordFits s.settings
      · rw [huntouched.outcome_of_settles (hfits hrecord)]
        exact ⟨_, rfl⟩
      · exact hbroken (hunfit hrecord)
  · obtain ⟨code, hbreaks⟩ := Machine.breaks_of_not_accepts h hhosts haccepts
    exact ⟨fun hyes => absurd hyes haccepts, fun _ => hbroken hbreaks⟩

/-- A build comes to an end, and gives the artifact of the job or the reason why there is none. -/
theorem exists_build (hsorted : identity.flow.Sorted) (hplain : identity.flow.Plain 125) :
    ∃ b, s.build m identity = some b ∧
      (s.Builds m identity → b.result = .ok (BuildManifest.artifactOf m.files identity)) ∧
      (¬ s.Builds m identity → ∃ e, b.result = .error e) := by
  obtain ⟨c, hc, hwork⟩ := s.configuration_eq_ok m.files identity
  rcases hlaunch : m.launch s.settings BuildManifest.workType c with ⟨m', e | l⟩
  · have hbuild : s.build m identity = some ⟨m', [], .error e⟩ := by
      simp only [build, hc, buildFrom, hlaunch, buildOf]
    have hnot := not_completes_of_error hc hlaunch
    exact ⟨_, hbuild, fun hbuilds => absurd hbuilds.completes hnot, fun _ => ⟨e, rfl⟩⟩
  · obtain ⟨time, hstarted, huntouched, ending, held, hend, hheld⟩ :=
      Machine.exists_untouched hlaunch hhosts
    obtain ⟨hdone, hundone⟩ := outcome_of_launch hhosts hwork hlaunch hsorted hplain
    obtain ⟨hintime, hlate⟩ := await_of_untouched (s := s) huntouched hend hheld
    by_cases hin : l.FinishesWithin s.buildTimeoutMs
    · obtain ⟨later, l', hawait⟩ := hintime hin
      obtain ⟨b, hb, hresult⟩ := build_of_await hc hlaunch hstarted hawait
      refine ⟨b, hb, fun hbuilds => ?_, fun hno => ?_⟩
      · obtain ⟨haccepts, -⟩ := (completes_iff hc hlaunch).1 hbuilds.completes
        rw [hresult]
        exact hdone haccepts hbuilds.object hbuilds.writes
      · rw [hresult]
        refine hundone fun hyes => hno ?_
        obtain ⟨haccepts, hobject, hfits⟩ := hyes
        exact ⟨hobject, (completes_iff hc hlaunch).2 ⟨haccepts, hin⟩, hfits⟩
    · obtain ⟨later, limit, l', hawait⟩ := hlate hin
      obtain ⟨b, hb, hresult⟩ := build_of_await hc hlaunch hstarted hawait
      refine ⟨b, hb, fun hbuilds => ?_, fun _ => ⟨_, hresult⟩⟩
      obtain ⟨-, hin'⟩ := (completes_iff hc hlaunch).1 hbuilds.completes
      exact absurd hin' hin

/-- Without a limit a worker only has to be launched and to accept its arguments. -/
lemma completes_of_isOk (hlimit : s.buildTimeoutMs = none)
    (hc : s.configuration m.files identity = .ok c)
    (hok : (m.launch s.settings BuildManifest.workType c).2.isOk = true)
    (haccepts : m.Accepts s.settings c) : s.Completes m identity := by
  obtain ⟨m', l, hlaunch⟩ := Machine.exists_launched hok
  obtain ⟨time, -, huntouched, -⟩ := Machine.exists_untouched hlaunch hhosts
  have hin : l.FinishesWithin s.buildTimeoutMs := by
    rw [huntouched.finishesWithin_iff, hlimit]
    nofun
  exact (completes_iff hc hlaunch).2 ⟨haccepts, hin⟩

end Build

/-! ### Handing over -/

/-- A cluster that keeps a list of what it was handed. -/
def recording (accept : σ → JobArtifact → σ × Except ClusterError RunId)
    (cluster : σ × List JobArtifact) (artifact : JobArtifact) :
    (σ × List JobArtifact) × Except ClusterError RunId :=
  (((accept cluster.1 artifact).1, cluster.2 ++ [artifact]), (accept cluster.1 artifact).2)

/-- What it means that the artifact of a job is handed to a cluster as it should be: what the
cluster was handed, the cluster afterwards and the answer. -/
structure HandsOver (s : ArtifactSubmitter) (m : Machine) (identity : JobIdentity)
    (accept : σ → JobArtifact → σ × Except ClusterError RunId) (cluster : σ)
    (handed : List JobArtifact) (after : σ) (answer : Except ContainerError RunId) : Prop where
  /-- The cluster is called at most once. -/
  once : handed.length ≤ 1
  /-- It is called exactly when there is an artifact. -/
  called : handed ≠ [] ↔ s.Builds m identity
  /-- The artifact has the id of the job, its flow with the digest of that, and its dependencies. -/
  artifact : ∀ a ∈ handed, a.jobId = identity.jobId ∧ a.flow = identity.flow ∧
    a.flowDigest = BuildManifest.flowDigest identity.flow ∧
    a.dependencies = identity.resolvedDependencies m.files
  /-- A cluster that accepts the artifact gives the answer. -/
  accepted : ∀ a ∈ handed, ∀ runId, (accept cluster a).2 = .ok runId →
    answer = .ok runId ∧ after = (accept cluster a).1
  /-- A refusal is a failed submission. -/
  refused : ∀ a ∈ handed, ∀ e, (accept cluster a).2 = .error e →
    answer = .error (.submission identity.jobId e.message) ∧ after = (accept cluster a).1
  /-- Everything else that goes wrong is a failed build, and the cluster is as it was. -/
  failed : handed = [] → after = cluster ∧ ∃ e, answer = .error (.build identity.jobId e)

/-- The manifest of a job names the files of its dependencies, and a worker does not miss any of
them, whatever its classpath and its working directory. -/
structure Furnishes (fs : FileSystem) (identity : JobIdentity) : Prop where
  /-- The manifest names the files of the dependencies. -/
  lists : identity.Lists fs (BuildManifest.forJob fs identity).dependencies
  /-- No dependency is missing. -/
  complete : ∀ ctx fs', fs.Retains fs' → ∀ cause,
    ((BuildManifest.forJob fs identity).execute ctx fs').ending = .failure cause →
      cause.kind ≠ "MissingDependency"

lemma furnishes (fs : FileSystem) (identity : JobIdentity) : Furnishes fs identity := by
  refine ⟨JobIdentity.lists_resolvedDependencies fs identity, ?_⟩
  intro ctx fs' hretains cause hcause
  cases hobject : BuildManifest.isObject identity.flow with
  | true =>
    rw [BuildManifest.ending_execute_of_object hretains hobject] at hcause
    cases hcause
  | false =>
    rw [BuildManifest.ending_execute_of_not_object hobject] at hcause
    cases hcause
    simp

/-- The artifact of a job is built and handed to the cluster, or the cluster is not called. -/
theorem handsOver_submit (hhosts : m.Hosts s.settings Worker.standardRegistry)
    (hsorted : identity.flow.Sorted) (hplain : identity.flow.Plain 125)
    (accept : σ → JobArtifact → σ × Except ClusterError RunId) (cluster : σ) :
    (∃ b after handed answer,
      s.submit m identity (recording accept) (cluster, []) = some (b, (after, handed), answer) ∧
        s.HandsOver m identity accept cluster handed after answer) ∧
    Furnishes m.files identity := by
  refine ⟨?_, furnishes m.files identity⟩
  obtain ⟨b, hb, hbuilt, hunbuilt⟩ := exists_build hhosts hsorted hplain
  by_cases hbuilds : s.Builds m identity
  · let artifact := BuildManifest.artifactOf m.files identity
    have hresult : b.result = .ok artifact := hbuilt hbuilds
    have hsubmit : s.submit m identity (recording accept) (cluster, []) =
        some (b, ((accept cluster artifact).1, [artifact]),
          (accept cluster artifact).2.mapError fun e => .submission identity.jobId e.message) := by
      rcases haccept : accept cluster artifact with ⟨after, e | runId⟩ <;>
        simp [submit, hb, hresult, handOver, recording, haccept, Except.mapError]
    refine ⟨_, _, _, _, hsubmit, ?_, ?_, ?_, ?_, ?_, ?_⟩
    · exact Nat.le_refl 1
    · exact ⟨fun _ => hbuilds, fun _ => List.cons_ne_nil artifact []⟩
    · intro a ha
      cases List.mem_singleton.1 ha
      exact ⟨rfl, rfl, rfl, rfl⟩
    · intro a ha runId hok
      cases List.mem_singleton.1 ha
      rw [hok]
      exact ⟨rfl, rfl⟩
    · intro a ha e herror
      cases List.mem_singleton.1 ha
      rw [herror]
      exact ⟨rfl, rfl⟩
    · intro hnil
      cases hnil
  · obtain ⟨e, hresult⟩ := hunbuilt hbuilds
    have hsubmit : s.submit m identity (recording accept) (cluster, []) =
        some (b, (cluster, []), .error (.build identity.jobId e)) := by
      simp [submit, hb, hresult, handOver]
    refine ⟨_, _, _, _, hsubmit, ?_, ?_, nofun, nofun, nofun, ?_⟩
    · exact Nat.zero_le 1
    · exact ⟨fun hne => absurd rfl hne, fun hyes => absurd hyes hbuilds⟩
    · exact fun _ => ⟨rfl, e, rfl⟩

/-- A job in a relative directory with a file, a directory and nothing at all among its
dependencies: the cluster is handed an artifact with the file. -/
theorem handsOver_submit_relativeWorkDir :
    let files : FileSystem :=
      ⟨["r".toList], [(["tmp".toList], .directory), (["r".toList], .directory),
        (["r".toList, "w".toList], .directory),
        (["r".toList, "w".toList, "udf.jar".toList], .file [0x78] false),
        (["r".toList, "w".toList, "lib".toList], .directory)]⟩
    let m : Machine :=
      { files := files, programs := [(⟨"worker"⟩, Worker.program Worker.standardRegistry)] }
    let s : ArtifactSubmitter :=
      { settings := { workerProgram := ⟨"worker"⟩ }, classpath := ⟨[⟨"/cp"⟩], []⟩ }
    let identity : JobIdentity := ⟨⟨"j"⟩, .obj [], ⟨"w"⟩, [⟨"udf.jar"⟩, ⟨"lib"⟩, ⟨"ghost.jar"⟩]⟩
    let accept (called : Nat) (_ : JobArtifact) : Nat × Except ClusterError RunId :=
      (called + 1, .ok ⟨"app"⟩)
    ∃ b a, s.submit m identity (recording accept) (0, []) = some (b, (1, [a]), .ok ⟨"app"⟩) ∧
      a.jobId = identity.jobId ∧ a.dependencies = [⟨"/r/w/udf.jar"⟩] := by
  intro files m s identity accept
  have hlocate : m.files.locate (m.exchange s.settings) =
      .ok ["tmp".toList, "vessel-1".toList] := by decide +kernel
  have hready : m.Ready s.settings (Worker.program Worker.standardRegistry) := by
    refine ⟨by simp [m, s, Path.same_refl], fun l hl => ?_⟩
    cases hlocate.symm.trans hl
    simp [FileSystem.Vacant, m, files]
  have hsorted : identity.flow.Sorted := by simp [identity, Json.Sorted, Json.SortedMembers]
  have hplain : identity.flow.Plain 125 := by simp [identity, Json.Plain, Json.PlainMembers]
  obtain ⟨⟨b, after, handed, answer, hsubmit, hhands⟩, -⟩ :=
    handsOver_submit hready.hosts hsorted hplain accept 0
  have hcompletes : s.Completes m identity := by
    obtain ⟨c, hc, hok, haccepts⟩ : ∃ c, s.configuration m.files identity = .ok c ∧
        (m.launch s.settings BuildManifest.workType c).2.isOk = true ∧ m.Accepts s.settings c :=
      ⟨_, rfl, by decide +kernel, by decide +kernel⟩
    exact completes_of_isOk hready.hosts rfl hc hok haccepts
  have hbuilds : s.Builds m identity := ⟨rfl, hcompletes, by decide +kernel⟩
  have hfound : identity.resolvedDependencies m.files = [⟨"/r/w/udf.jar"⟩] := by decide +kernel
  have hone : handed.length = 1 :=
    Nat.le_antisymm hhands.once (List.length_pos_iff.2 (hhands.called.2 hbuilds))
  obtain ⟨a, rfl⟩ := List.length_eq_one_iff.1 hone
  obtain ⟨hid, -, -, hdependencies⟩ := hhands.artifact a (List.mem_singleton.2 rfl)
  obtain ⟨rfl, rfl⟩ := hhands.accepted a (List.mem_singleton.2 rfl) ⟨"app"⟩ rfl
  exact ⟨b, a, hsubmit, hid, hdependencies.trans hfound⟩

/-- If the path of the exchange directory leaves room for the payload but not for the record, the
worker finishes in time and nothing is handed over. -/
theorem not_called_longExchange :
    let m : Machine :=
      { files := ⟨[], [(["tmp".toList], .directory)]⟩
        programs := [(⟨"worker"⟩, Worker.program Worker.standardRegistry)] }
    let s : ArtifactSubmitter :=
      { settings := { workerProgram := ⟨"worker"⟩, exchangeDir := some (Path.longTmp 4068) } }
    let identity : JobIdentity := ⟨⟨"j"⟩, .obj [], ⟨"/"⟩, []⟩
    let accept (called : Nat) (_ : JobArtifact) : Nat × Except ClusterError RunId :=
      (called + 1, .ok ⟨"app"⟩)
    ¬ ((∃ b after a answer,
        s.submit m identity (recording accept) (0, []) = some (b, (after, [a]), answer)) ↔
      BuildManifest.isObject identity.flow = true ∧ s.Completes m identity) := by
  intro m s identity accept
  have hruns : (m.programs.find? fun p => p.1.same s.settings.workerProgram).map (·.2) =
      some (Worker.program Worker.standardRegistry) := by
    simp [m, s, Path.same_refl]
  obtain ⟨c, hc, hdir, hcommand⟩ : ∃ c, s.configuration m.files identity = .ok c ∧
      c.workDir = some ⟨"/"⟩ ∧
      ∀ payload record, c.command payload record = ⟨payload, record, [], none, none, []⟩ :=
    ⟨_, rfl, rfl, fun _ _ => rfl⟩
  have hparams : BuildManifest.workType.encode? c.work = some c.work.encode.sorted := rfl
  obtain ⟨hready, ⟨m', l, hlaunch⟩, haccepts, hstaging⟩ :=
    Machine.exists_launch_longTmp rfl rfl rfl hruns (by decide) hdir hcommand hparams
  have hcompletes : s.Completes m identity :=
    completes_of_isOk hready.hosts rfl hc (by rw [hlaunch]; rfl) haccepts
  have hsorted : identity.flow.Sorted := by simp [identity, Json.Sorted, Json.SortedMembers]
  have hplain : identity.flow.Plain 125 := by simp [identity, Json.Plain, Json.PlainMembers]
  obtain ⟨b, hb, -, hunbuilt⟩ := exists_build hready.hosts hsorted hplain
  obtain ⟨e, hresult⟩ := hunbuilt fun hbuilds => hstaging hbuilds.writes
  intro hiff
  obtain ⟨b', after, a, answer, hsubmit⟩ := hiff.2 ⟨rfl, hcompletes⟩
  simp [submit, hb, hresult, handOver] at hsubmit

end ArtifactSubmitter

end JobSupervision
