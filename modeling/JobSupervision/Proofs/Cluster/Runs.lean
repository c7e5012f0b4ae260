/-
# Runs of local clusters

What callers of a local cluster learn fits together, whatever they do and wherever their calls stop
halfway.  The cluster keeps books on its runs: the next number, the latest run of each job, and what
is known of each run (`LocalCluster.Books`).  Every action keeps them (`LocalCluster.Books.turn`).
So a run gets an id that no other run has, its outcome is taken once, and polls tell first that it
is not known, then that it is running, and then one status for ever
(`LocalCluster.Scene.keepsHistory_play`).
-/
import JobSupervision.Proofs.Cluster.Phases
import JobSupervision.Proofs.Cluster.RunIds
import JobSupervision.Proofs.Entries
import JobSupervision.Proofs.Launch.Outcome
import Mathlib.Algebra.Group.Nat.Defs

namespace JobSupervision.LocalCluster

open List (replicate)

variable {W V : Type} {said : List (Report V)} {r : Report V} {id : RunId} {jobId : JobId}

/-! ### What a cluster keeps -/

variable {c : LocalCluster W V} {s s' : Scene W V}

lemma lookup_setRun_self (c : LocalCluster W V) (id : RunId) (run : LocalRun V) :
    (c.setRun id run).runs.lookup id = some run :=
  (lookup_cons_filter_ne c.runs id id run).trans (if_pos rfl)

lemma lookup_setRun_of_ne (c : LocalCluster W V) {i : RunId} (h : i ≠ id) (run : LocalRun V) :
    (c.setRun id run).runs.lookup i = c.runs.lookup i :=
  (lookup_cons_filter_ne c.runs i id run).trans (if_neg h)

lemma standing_of_look {c' : LocalCluster W V} {now : Nat} {status : RemoteStatus}
    (h : c.look now id = (.status status, c')) : status = standing (c.runs.lookup id) := by
  rw [look] at h
  split at h
  · next hrun => cases h; rw [hrun]; rfl
  · next hrun => cases h; rw [hrun]; rfl
  · next hrun => cases h; rw [hrun]; rfl
  · next launch hrun =>
    split at h
    · cases h
      rw [hrun]
      rfl
    · cases h

/-- An outcome is taken from the handle of a launch that is awaited. -/
lemma active_of_look {c' : LocalCluster W V} {now : Nat} {outcome : LaunchOutcome V}
    (h : c.look now id = (.outcome outcome, c')) :
    ∃ launch handle, c.runs.lookup id = some (.active launch) ∧
      launch.handle.take? = some (outcome, handle) ∧ c'.runs = (c.setRun id .settling).runs ∧
      c'.nextRun = c.nextRun ∧ c'.latest = c.latest := by
  rw [look] at h
  split at h
  · cases h
  · cases h
  · cases h
  · next launch hrun =>
    split at h
    · cases h
    · next o handle htake =>
      cases h
      exact ⟨launch, handle, hrun, htake, rfl, rfl, rfl⟩

lemma lookup_passTo (c : LocalCluster W V) (now later : Nat) (id : RunId) :
    (c.passTo now later).runs.lookup id =
      (c.runs.lookup id).map (LocalCluster.passRun now later) := by
  rw [← lookup_map_value]
  congr 1
  refine List.map_congr_left fun e _ => ?_
  obtain ⟨i, run⟩ := e
  cases run <;> rfl

/-- Whether a cluster and the calls on it are as they should be after what became known. -/
structure Books (s : Scene W V) (said : List (Report V)) : Prop where
  /-- Runs are numbered in the order in which they were submitted. -/
  next : s.cluster.nextRun = .ofNat ((ids said).length + 1)
  /-- Their ids are made of these numbers. -/
  numbered : ∀ id ∈ ids said, ∃ jobId n,
    1 ≤ n ∧ n ≤ (ids said).length ∧ id = runId jobId (.ofNat n)
  /-- The latest run of each job is kept. -/
  latest : ∀ jobId, s.cluster.latest.lookup jobId = latestRun? jobId said
  /-- What is known of a run is what became known. -/
  phase : ∀ id, Phase id said (s.cluster.runs.lookup id)
  /-- Calls hold the outcomes that were taken. -/
  collecting : ∀ id outcome, .collecting id outcome ∈ s.calls → outcomes id said = [outcome]
  /-- What became known fits together. -/
  told : Told said

namespace Books

/-- Other calls, or fewer ones, and other files change nothing. -/
lemma of_calls (h : Books s said) (hcluster : s'.cluster = s.cluster)
    (hcalls : ∀ id outcome, .collecting id outcome ∈ s'.calls → .collecting id outcome ∈ s.calls) :
    Books s' said := by
  refine ⟨?_, h.numbered, ?_, ?_, fun id outcome hcall => ?_, h.told⟩
  · rw [hcluster, h.next]
  · rw [hcluster]
    exact h.latest
  · rw [hcluster]
    exact h.phase
  · exact h.collecting id outcome (hcalls id outcome hcall)

/-- Nothing but the run that a report is about is known in another way. -/
lemma phase_concat (h : Books s said) (hsubject : ∀ i, r.subject? = some i → i = id)
    (hothers : ∀ i, i ≠ id → c.runs.lookup i = s.cluster.runs.lookup i)
    (hphase : Phase id (said ++ [r]) (c.runs.lookup id)) (i : RunId) :
    Phase i (said ++ [r]) (c.runs.lookup i) := by
  by_cases hi : i = id
  · rwa [hi]
  · rw [hothers i hi]
    exact (h.phase i).concat_of_ne fun heq => hi (hsubject i heq)

/-- Something becomes known that is no submission. -/
lemma concat (h : Books s said) (hfits : r.Fits said) (hid : r.id? = none)
    (hnext : s'.cluster.nextRun = s.cluster.nextRun)
    (hlatest : s'.cluster.latest = s.cluster.latest)
    (hphase : ∀ id, Phase id (said ++ [r]) (s'.cluster.runs.lookup id))
    (hcalls : ∀ id outcome, .collecting id outcome ∈ s'.calls →
      outcomes id (said ++ [r]) = [outcome]) :
    Books s' (said ++ [r]) := by
  have hids : ids (said ++ [r]) = ids said := by
    rw [ids_concat, hid]
    exact List.append_nil _
  have hjob (jobId : JobId) : r.idOf? jobId = none := by
    cases r with
    | submitted => cases hid
    | _ => rfl
  refine ⟨?_, ?_, fun jobId => ?_, hphase, hcalls, h.told.concat hfits⟩
  · rw [hids, hnext, h.next]
  · rw [hids]
    exact h.numbered
  · rw [latestRun?_concat, hjob, hlatest, h.latest]
    rfl

lemma concat_of_nothing (h : Books s said) (hfits : r.Fits said) (hsubject : r.subject? = none)
    (hid : r.id? = none) : Books s (said ++ [r]) := by
  have hother (id : RunId) : r.subject? ≠ some id := by
    rw [hsubject]
    nofun
  refine h.concat hfits hid rfl rfl (fun id => (h.phase id).concat_of_ne (hother id)) ?_
  intro id outcome hcall
  rw [outcomes_concat_of_subject?_ne (hother id)]
  exact h.collecting id outcome hcall

lemma submit (h : Books s said) (artifact : JobArtifact) (identity : JobIdentity) :
    Books (s.submit artifact identity).1 (said ++ (s.submit artifact identity).2.toList) := by
  rw [Scene.submit]
  split
  · exact h.concat_of_nothing trivial rfl rfl
  · rw [Option.toList_none, List.append_nil]
    refine h.of_calls rfl fun id outcome hcall => ?_
    simpa using hcall

/-- The id of a new run is new. -/
lemma nextId_notMem (h : Books s said) (hfew : (ids said).length + 1 < 2 ^ 64) (jobId : JobId) :
    s.cluster.nextId jobId ∉ ids said := by
  intro hmem
  obtain ⟨jobId', n, hpos, hle, heq⟩ := h.numbered _ hmem
  rw [nextId, h.next] at heq
  -- the two numbers are the same as words, and too small for that to be an accident
  have hnumber := congrArg UInt64.toNat (number_eq_of_runId_eq heq)
  rw [UInt64.toNat_ofNat', UInt64.toNat_ofNat'] at hnumber
  omega

lemma lookup_nextId (h : Books s said) (hfew : (ids said).length + 1 < 2 ^ 64) (jobId : JobId) :
    s.cluster.runs.lookup (s.cluster.nextId jobId) = none := by
  have hknown := (h.phase (s.cluster.nextId jobId)).mem_ids_iff
  rw [← Option.not_isSome_iff_eq_none, ← hknown]
  exact h.nextId_notMem hfew jobId

lemma enter (h : Books s said) (hfew : (ids said).length + 1 < 2 ^ 64) {launch : Launched V}
    (hfresh : launch.handle = .fresh) (jobId : JobId)
    (hcluster : s'.cluster = (s.cluster.enter jobId launch).1)
    (hcalls : ∀ id outcome, .collecting id outcome ∈ s'.calls → .collecting id outcome ∈ s.calls) :
    Books s' (said ++ [.submitted jobId launch (s.cluster.nextId jobId)]) := by
  let new := s.cluster.nextId jobId
  have hids : ids (said ++ [.submitted jobId launch new]) = ids said ++ [new] := ids_concat ..
  have hlength : (ids (said ++ [.submitted jobId launch new])).length = (ids said).length + 1 := by
    rw [hids, List.length_append, List.length_singleton]
  refine ⟨?_, ?_, ?_, ?_, ?_, h.told.concat (h.nextId_notMem hfew jobId)⟩
  · rw [hcluster, hlength]
    -- the sum may wrap here, and so does the number on the other side
    show s.cluster.nextRun + 1 = _
    rw [h.next]
    exact (UInt64.ofNat_add ((ids said).length + 1) 1).symm
  · intro id hid
    rw [hids, List.mem_append, List.mem_singleton] at hid
    rw [hlength]
    rcases hid with hbefore | rfl
    · obtain ⟨jobId', n, hpos, hle, heq⟩ := h.numbered id hbefore
      exact ⟨jobId', n, hpos, by omega, heq⟩
    · exact ⟨jobId, (ids said).length + 1, by omega, by omega, by rw [← h.next]; rfl⟩
  · intro jobId'
    rw [hcluster, latestRun?_concat_submitted, ← h.latest]
    exact lookup_cons_filter_ne s.cluster.latest jobId' jobId new
  · have hphase := h.phase new
    rw [h.lookup_nextId hfew jobId] at hphase
    rw [hcluster]
    refine h.phase_concat (fun _ hi => (Option.some.inj hi).symm) (fun i hi => ?_) ?_
    · exact lookup_setRun_of_ne s.cluster hi (.active launch)
    · show Phase new _ ((s.cluster.setRun new (.active launch)).runs.lookup new)
      rw [lookup_setRun_self]
      exact hphase.submitted hfresh jobId
  · intro id outcome hcall
    rw [outcomes_concat]
    exact (List.append_nil _).trans (h.collecting id outcome (hcalls id outcome hcall))

lemma launch (h : Books s said) {jobId : JobId} {configuration : LaunchConfiguration W}
    (hfew : (ids (said ++ (s.launch jobId configuration).2.toList)).length < 2 ^ 64) :
    Books (s.launch jobId configuration).1 (said ++ (s.launch jobId configuration).2.toList) := by
  rw [Scene.launch] at hfew ⊢
  generalize hlaunch : s.machine.launch s.cluster.settings s.cluster.work configuration = launched
    at hfew ⊢
  obtain ⟨machine, answer⟩ := launched
  cases answer with
  | error e =>
    have hsame : Books { s with machine := machine } said := h.of_calls rfl fun _ _ hcall => hcall
    exact hsame.concat_of_nothing trivial rfl rfl
  | ok launch =>
    obtain ⟨_, _, _, _, -, -, -, -, rfl⟩ := Machine.launch_eq_ok hlaunch
    refine h.enter ?_ rfl jobId rfl fun _ _ hcall => hcall
    simpa [ids_concat, Report.id?] using hfew

/-- The outcome of a run is taken, or its status is told. -/
lemma poll (h : Books s said) (id : RunId) :
    Books (s.poll id).1 (said ++ (s.poll id).2.toList) := by
  have hphase := h.phase id
  rw [Scene.poll]
  generalize hlook : s.cluster.look s.machine.clock id = looked
  obtain ⟨look, cluster⟩ := looked
  cases look with
  | status status =>
    obtain rfl := standing_of_look hlook
    obtain ⟨hpolled, hfits⟩ := hphase.polled
    refine h.concat hfits rfl rfl rfl (h.phase_concat (fun _ hi => (Option.some.inj hi).symm)
      (fun _ _ => rfl) hpolled) fun i outcome hcall => ?_
    rw [outcomes_concat_polled]
    exact h.collecting i outcome hcall
  | outcome outcome =>
    obtain ⟨launch, handle, hrun, htake, hruns, hnext, hlatest⟩ := active_of_look hlook
    rw [hrun] at hphase
    obtain ⟨htook, hfits⟩ := hphase.took htake
    have hnothing := hphase.outcomes_of_active
    refine h.concat hfits rfl hnext hlatest (h.phase_concat
      (fun _ hi => (Option.some.inj hi).symm) (fun i hi => ?_) ?_) fun i outcome' hcall => ?_
    · rw [hruns]
      exact lookup_setRun_of_ne s.cluster hi .settling
    · rwa [hruns, lookup_setRun_self]
    · rw [outcomes_concat, Report.outcome?]
      rcases List.mem_append.1 hcall with hbefore | hnew
      · -- an older call holds the outcome of another run, since nothing was taken of this one
        have houtcomes := h.collecting i outcome' hbefore
        have hother : id ≠ i := by
          rintro rfl
          rw [hnothing] at houtcomes
          cases houtcomes
        rw [if_neg hother, houtcomes]
        rfl
      · cases List.mem_singleton.1 hnew
        rw [if_pos rfl, hnothing]
        rfl

lemma settle (h : Books s said) {id : RunId} {outcome : LaunchOutcome V}
    (houtcome : outcomes id said = [outcome]) :
    Books (s.settle id outcome).1 (said ++ (s.settle id outcome).2.toList) := by
  obtain ⟨hsettled, hfits⟩ := (h.phase id).settled houtcome
  refine h.concat hfits rfl rfl rfl (h.phase_concat (fun _ hi => (Option.some.inj hi).symm)
    (fun i hi => ?_) ?_) fun i outcome' hcall => ?_
  · exact lookup_setRun_of_ne s.cluster hi _
  · show Phase id _ ((s.cluster.setRun id _).runs.lookup id)
    rw [lookup_setRun_self]
    exact hsettled
  · rw [outcomes_concat_polled]
    exact h.collecting i outcome' hcall

/-- A run is wanted to be stopped; this fails if nobody submitted it. -/
lemma kill (h : Books s said) (id : RunId) :
    Books { s with cluster := (s.cluster.kill id).2 }
      (said ++ [.killed id (s.cluster.kill id).1]) := by
  have hphase := h.phase id
  have hknown : id ∈ ids said ↔ (s.cluster.runs.lookup id).isSome := hphase.mem_ids_iff
  rw [LocalCluster.kill]
  split
  · next hrun =>
    rw [hrun] at hknown
    refine h.concat_of_nothing ?_ rfl rfl
    exact iff_of_false nofun fun hmem => Bool.false_ne_true (hknown.1 hmem)
  · next launch hrun =>
    rw [hrun] at hknown hphase
    have hothers (i : RunId) (hi : i ≠ id) :
        (s.cluster.setRun id (.active launch.cancel)).runs.lookup i = s.cluster.runs.lookup i :=
      lookup_setRun_of_ne s.cluster hi _
    refine h.concat (iff_of_true rfl (hknown.2 rfl)) rfl rfl rfl (h.phase_concat nofun hothers ?_)
      fun i outcome hcall => ?_
    · rw [lookup_setRun_self]
      exact hphase.killed
    · rw [outcomes_concat]
      exact (List.append_nil _).trans (h.collecting i outcome hcall)
  · next run hrun =>
    rw [hrun] at hknown
    refine h.concat_of_nothing ?_ rfl rfl
    exact iff_of_true rfl (hknown.2 rfl)

/-- Every action keeps the books, as long as there are enough numbers. -/
theorem turn (h : Books s said) (a : Action)
    (hfew : (ids (said ++ (s.turn a).2.toList)).length < 2 ^ 64) :
    Books (s.turn a).1 (said ++ (s.turn a).2.toList) := by
  -- a call that goes on or is dropped is under way no more
  have hdrop (n : Nat) : Books { s with calls := s.calls.eraseIdx n } said :=
    h.of_calls rfl fun _ _ hcall => List.mem_of_mem_eraseIdx hcall
  cases a with
  | submit artifact identity => exact h.submit artifact identity
  | poll id => exact h.poll id
  | kill id => exact h.kill id
  | find jobId => exact h.concat_of_nothing (h.latest jobId) rfl rfl
  | proceed n =>
    rw [Scene.turn, Scene.proceed] at hfew ⊢
    cases hcall : s.calls[n]? with
    | none => simpa [hcall] using h
    | some call =>
      rw [hcall] at hfew
      cases call with
      | launching jobId configuration => exact (hdrop n).launch hfew
      | collecting id outcome =>
        exact (hdrop n).settle (h.collecting id outcome (List.mem_of_getElem? hcall))
  | drop n => simpa [Scene.turn] using hdrop n
  | pass millis =>
    rw [Scene.turn, Option.toList_none, List.append_nil]
    refine ⟨h.next, h.numbered, h.latest, fun id => ?_, h.collecting, h.told⟩
    rw [lookup_passTo]
    exact (h.phase id).passRun _ _
  | shift machine =>
    rw [Scene.turn, Option.toList_none, List.append_nil]
    exact h.of_calls rfl fun _ _ hcall => hcall

end Books

/-! ### All that may happen -/

namespace Scene

lemma history_append (s : Scene W V) (first second : List Action) :
    s.history (first ++ second) = s.history first ++ (s.play first).history second := by
  induction first generalizing s with
  | nil => rfl
  | cons a first ih =>
    rw [List.cons_append, history, ih, history, List.append_assoc]
    rfl

lemma cluster_turn_of_refused {a : Action} {e : ClusterError}
    (h : (s.turn a).2 = some (.refused e)) : (s.turn a).1.cluster = s.cluster := by
  have hlaunch {s : Scene W V} {jobId : JobId} {configuration : LaunchConfiguration W}
      (h : (s.launch jobId configuration).2 = some (.refused e)) :
      (s.launch jobId configuration).1.cluster = s.cluster := by
    rw [launch] at h ⊢
    split at h
    · rfl
    · cases h
  cases a with
  | submit artifact identity =>
    rw [turn, submit]
    split <;> rfl
  | proceed n =>
    rw [turn, proceed] at h ⊢
    split at h
    · cases h
    · exact hlaunch h
    · cases h
  | poll id =>
    rw [turn, poll] at h
    split at h <;> cases h
  | _ => cases h

lemma eq_nextId_of_submitted {a : Action} {launch : Launched V}
    (h : (s.turn a).2 = some (.submitted jobId launch id)) : id = s.cluster.nextId jobId := by
  have hlaunch {s : Scene W V} {j : JobId} {configuration : LaunchConfiguration W}
      (h : (s.launch j configuration).2 = some (.submitted jobId launch id)) :
      id = s.cluster.nextId jobId := by
    rw [Scene.launch] at h
    split at h
    · cases h
    · cases h
      rfl
  cases a with
  | submit artifact identity =>
    rw [turn, submit] at h
    split at h <;> cases h
  | proceed n =>
    rw [turn, proceed] at h
    split at h
    · cases h
    · exact hlaunch (s := { s with calls := s.calls.eraseIdx n }) h
    · cases h
  | poll id =>
    rw [turn, poll] at h
    split at h <;> cases h
  | _ => cases h

end Scene

lemma length_ids_le (said more : List (Report V)) :
    (ids said).length ≤ (ids (said ++ more)).length := by
  rw [ids, ids, List.filterMap_append, List.length_append]
  exact Nat.le_add_right _ _

/-- The books are kept all the time. -/
lemma Books.play (h : Books s said) (actions : List Action)
    (hfew : (ids (said ++ s.history actions)).length < 2 ^ 64) :
    Books (s.play actions) (said ++ s.history actions) := by
  induction actions generalizing s said with
  | nil => simpa [Scene.play, Scene.history] using h
  | cons a rest ih =>
    rw [Scene.history, ← List.append_assoc] at hfew ⊢
    exact ih (h.turn a (Nat.lt_of_le_of_lt (length_ids_le _ _) hfew)) hfew

/-- Whether nobody has used a cluster yet. -/
structure Scene.IsNew (s : Scene W V) : Prop where
  /-- Its first run has the number one. -/
  next : s.cluster.nextRun = 1
  /-- It knows of no runs. -/
  runs : s.cluster.runs = []
  /-- Not even the latest ones. -/
  latest : s.cluster.latest = []
  /-- No call is under way. -/
  calls : s.calls = []

lemma books_of_isNew (h : s.IsNew) : Books s [] where
  next := h.next
  numbered := fun id hid => absurd hid List.not_mem_nil
  latest := fun jobId => by rw [h.latest]; rfl
  phase := fun id => by
    rw [h.runs]
    exact .unsubmitted 0 List.not_mem_nil rfl rfl
  collecting := fun id outcome hcall => by
    rw [h.calls] at hcall
    exact absurd hcall List.not_mem_nil
  told := told_nil

/-- Whether polls tell that a run is not known, then that it is running, and then one status for
ever. -/
def Lasting (told : List RemoteStatus) : Prop :=
  ∃ a b c status, status ≠ .unknown ∧ status ≠ .running ∧
    told = replicate a .unknown ++ replicate b .running ++ replicate c status

lemma Phase.lasting {run : Option (LocalRun V)} (h : Phase id said run) :
    Lasting (statuses id said) := by
  cases h with
  | unsubmitted a _ _ hstatuses =>
    exact ⟨a, 0, 0, .failed, by decide, by decide, by simpa using hstatuses⟩
  | active a b _ _ _ _ _ hstatuses =>
    exact ⟨a, b, 0, .failed, by decide, by decide, by simpa using hstatuses⟩
  | settling a b _ _ _ hstatuses =>
    exact ⟨a, b, 0, .failed, by decide, by decide, by simpa using hstatuses⟩
  | done a b c outcome _ _ hstatuses =>
    exact ⟨a, b, c, _, (ofOutcome_ne outcome).1, (ofOutcome_ne outcome).2, hstatuses⟩

lemma Phase.length_outcomes_le {run : Option (LocalRun V)} (h : Phase id said run) :
    (outcomes id said).length ≤ 1 := by
  cases h with
  | unsubmitted _ _ houtcomes _ => simp [houtcomes]
  | active _ _ _ _ _ _ houtcomes _ => simp [houtcomes]
  | settling _ _ _ _ houtcomes _ => simp [houtcomes]
  | done _ _ _ _ _ houtcomes _ => simp [houtcomes]

namespace Scene

/-- Whether what becomes known in the course of some actions fits together. -/
structure KeepsHistory (s : Scene W V) (actions : List Action) : Prop where
  /-- Everything fits what became known before. -/
  told : Told (s.history actions)
  /-- No two runs have the same id. -/
  distinct : (ids (s.history actions)).Nodup
  /-- The outcome of a run is taken once at most. -/
  once : ∀ id, (outcomes id (s.history actions)).length ≤ 1
  /-- The status of a run lasts. -/
  lasting : ∀ id, Lasting (statuses id (s.history actions))
  /-- A run that is entered takes the place of no other one. -/
  vacant : ∀ {before a after}, actions = before ++ a :: after → ∀ {jobId launch id},
    ((s.play before).turn a).2 = some (.submitted jobId launch id) →
      (s.play before).cluster.runs.lookup id = none
  /-- A job that is refused leaves the cluster as it was. -/
  unchanged : ∀ {before a after}, actions = before ++ a :: after → ∀ {e},
    ((s.play before).turn a).2 = some (.refused e) →
      ((s.play before).turn a).1.cluster = (s.play before).cluster

/-- What becomes known of a cluster fits together, whatever its callers do in whatever order, as
long as there are enough numbers for its runs. -/
theorem keepsHistory_play (hnew : s.IsNew) {actions : List Action}
    (hfew : (ids (s.history actions)).length < 2 ^ 64) : s.KeepsHistory actions := by
  have hbooks : Books (s.play actions) (s.history actions) :=
    (books_of_isNew hnew).play actions hfew
  refine ⟨hbooks.told, hbooks.told.nodup_ids, fun id => (hbooks.phase id).length_outcomes_le,
    fun id => (hbooks.phase id).lasting, ?_, fun _ _ h => cluster_turn_of_refused h⟩
  intro before a after hactions jobId launch id hsubmitted
  -- up to here there were enough numbers, and there is one more
  have hmore : (ids (s.history before)).length + 1 < 2 ^ 64 := by
    have hle := length_ids_le (s.history before ++ [.submitted jobId launch id])
      (((s.play before).turn a).1.history after)
    have hone : (Report.submitted jobId launch id).id?.toList.length = 1 := rfl
    rw [hactions, history_append, history, hsubmitted, Option.toList_some, ← List.append_assoc]
      at hfew
    rw [ids_concat, List.length_append] at hle
    omega
  have hbefore : Books (s.play before) (s.history before) :=
    (books_of_isNew hnew).play before (by rw [List.nil_append]; omega)
  rw [eq_nextId_of_submitted hsubmitted]
  exact hbefore.lookup_nextId hmore jobId

/-- A run that is polled before it is submitted, stopped, and polled again and again until its
worker is over, also while its outcome is being collected. -/
theorem keepsHistory_play_stopped :
    let worker : Program := fun _ fs =>
      { printed := [], complained := [], ending := some (1000, .exited 7), files := fs }
    let s : Scene Probe Int64 :=
      { machine := { files := ⟨[], [(["tmp".toList], .directory)]⟩, programs := [(⟨"/w"⟩, worker)] }
        cluster := { settings := { workerProgram := ⟨"/w"⟩ }, work := Probe.workType,
                     unitOf := fun _ => .value 1 } }
    let id : RunId := ⟨"local_j_001"⟩
    let actions : List Action :=
      [.poll id, .submit ⟨⟨"j"⟩, "", [], .obj []⟩ ⟨⟨"j"⟩, .obj [], ⟨"/"⟩, []⟩, .proceed 0, .poll id,
        .kill id, .pass 5, .poll id, .poll id, .proceed 0, .poll id]
    s.IsNew ∧ (ids (s.history actions)).length < 2 ^ 64 ∧ s.KeepsHistory actions ∧
      statuses id (s.history actions) = [.unknown, .running, .running, .killed, .killed] := by
  intro worker s id actions
  have hnew : s.IsNew := ⟨rfl, rfl, rfl, rfl⟩
  have hfew : (ids (s.history actions)).length < 2 ^ 64 := by decide +kernel
  exact ⟨hnew, hfew, keepsHistory_play hnew hfew, by decide +kernel⟩

end Scene

end JobSupervision.LocalCluster
