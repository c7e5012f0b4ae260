/-
# What becomes known of runs

Callers of a local cluster learn of its runs from reports.  A report fits the ones before it if it
says what follows from them (`LocalCluster.Report.Fits`).  Of each run the cluster knows as much as
follows from the reports: nothing, a launch whose outcome is awaited, that the outcome was taken, or
the status of that outcome (`LocalCluster.Phase`).  What a call does to a run takes it from one of
these to the next, and what it reports fits (`Phase.took`, `Phase.polled`, `Phase.settled`).
-/
import JobSupervision.Cluster.Scene
import JobSupervision.Proofs.Launch.Handle
import Mathlib.Data.List.Induction
import Mathlib.Data.List.Nodup

namespace JobSupervision.LocalCluster

open List (replicate)

variable {W V : Type}

/-! ### What became known -/

namespace Report

/-- The id that a report gives to a run. -/
def id? : Report V → Option RunId
  | .submitted _ _ id => some id
  | _ => none

/-- The id that a report gives to the run of a job. -/
def idOf? (jobId : JobId) : Report V → Option RunId
  | .submitted j _ id => if j = jobId then some id else none
  | _ => none

/-- The outcome that was taken of a run. -/
def outcome? (id : RunId) : Report V → Option (LaunchOutcome V)
  | .took i outcome => if i = id then some outcome else none
  | _ => none

/-- The status that a poll of a run returned. -/
def status? (id : RunId) : Report V → Option RemoteStatus
  | .polled i status => if i = id then some status else none
  | _ => none

/-- The run that a report tells something of. -/
def subject? : Report V → Option RunId
  | .submitted _ _ id | .took id _ | .polled id _ => some id
  | _ => none

variable {r : Report V} {id : RunId}

lemma id?_ne_of_subject?_ne (h : r.subject? ≠ some id) : r.id? ≠ some id := by
  cases r with
  | submitted j l i => exact h
  | _ => nofun

lemma outcome?_of_subject?_ne (h : r.subject? ≠ some id) : r.outcome? id = none := by
  cases r with
  | took i o => exact if_neg fun hi => h (congrArg some hi)
  | _ => rfl

lemma status?_of_subject?_ne (h : r.subject? ≠ some id) : r.status? id = none := by
  cases r with
  | polled i s => exact if_neg fun hi => h (congrArg some hi)
  | _ => rfl

end Report

variable {said : List (Report V)} {r : Report V} {id : RunId} {jobId : JobId}

/-- The ids of the runs, in the order in which they were given. -/
def ids (said : List (Report V)) : List RunId := said.filterMap Report.id?

/-- The run of a job that was submitted last. -/
def latestRun? (jobId : JobId) (said : List (Report V)) : Option RunId :=
  (said.filterMap (Report.idOf? jobId)).getLast?

/-- The outcomes that were taken of a run. -/
def outcomes (id : RunId) (said : List (Report V)) : List (LaunchOutcome V) :=
  said.filterMap (Report.outcome? id)

/-- The statuses that polls of a run returned, in the order in which they returned. -/
def statuses (id : RunId) (said : List (Report V)) : List RemoteStatus :=
  said.filterMap (Report.status? id)

/-- Whether what becomes known fits what became known before. -/
def Report.Fits (before : List (Report V)) : Report V → Prop
  | .refused _ => True
  | .submitted _ _ id => id ∉ ids before
  | .took id outcome => ∃ jobId launch, .submitted jobId launch id ∈ before ∧
      (outcome = launch.outcome ∨ outcome = .error .cancelled ∧ .killed id (.ok ()) ∈ before)
  | .polled id status => (status = .unknown ↔ id ∉ ids before) ∧
      (status ≠ .unknown → status ≠ .running →
        ∃ outcome, .took id outcome ∈ before ∧ status = .ofOutcome outcome)
  | .killed id answer => answer = .ok () ↔ id ∈ ids before
  | .found jobId answer => answer = latestRun? jobId before

/-- Whether everything that became known fits what became known before. -/
def Told (said : List (Report V)) : Prop :=
  ∀ before r after, said = before ++ r :: after → r.Fits before

lemma told_nil : Told ([] : List (Report V)) := by
  intro before r after h
  simp at h

lemma Told.concat (h : Told said) (hr : r.Fits said) : Told (said ++ [r]) := by
  intro before r' after heq
  rcases List.eq_nil_or_concat after with rfl | ⟨rest, last, rfl⟩
  · obtain ⟨rfl, hlast⟩ := List.append_inj' heq rfl
    cases hlast
    exact hr
  · rw [List.concat_eq_append, ← List.cons_append, ← List.append_assoc] at heq
    exact h before r' rest (List.append_inj' heq rfl).1

lemma Told.of_append {more : List (Report V)} (h : Told (said ++ more)) : Told said := by
  intro before r' after heq
  refine h before r' (after ++ more) ?_
  rw [heq, List.append_assoc, List.cons_append]

lemma filterMap_concat {α β : Type} (f : α → Option β) (l : List α) (x : α) :
    (l ++ [x]).filterMap f = l.filterMap f ++ (f x).toList := by
  rw [List.filterMap_append, List.filterMap_cons]
  cases f x <;> rfl

lemma ids_concat (said : List (Report V)) (r : Report V) :
    ids (said ++ [r]) = ids said ++ r.id?.toList := filterMap_concat ..

lemma outcomes_concat (id : RunId) (said : List (Report V)) (r : Report V) :
    outcomes id (said ++ [r]) = outcomes id said ++ (r.outcome? id).toList := filterMap_concat ..

lemma statuses_concat (id : RunId) (said : List (Report V)) (r : Report V) :
    statuses id (said ++ [r]) = statuses id said ++ (r.status? id).toList := filterMap_concat ..

lemma latestRun?_concat (jobId : JobId) (said : List (Report V)) (r : Report V) :
    latestRun? jobId (said ++ [r]) = (r.idOf? jobId <|> latestRun? jobId said) := by
  rw [latestRun?, filterMap_concat, List.getLast?_append]
  cases r.idOf? jobId <;> rfl

lemma latestRun?_concat_submitted (j jobId : JobId) (said : List (Report V))
    (launch : Launched V) (id : RunId) :
    latestRun? j (said ++ [.submitted jobId launch id]) =
      if j = jobId then some id else latestRun? j said := by
  rw [latestRun?_concat, Report.idOf?]
  by_cases hjob : j = jobId
  · rw [if_pos hjob, if_pos hjob.symm]
    rfl
  · rw [if_neg hjob, if_neg (Ne.symm hjob)]
    rfl

lemma statuses_concat_polled (id : RunId) (said : List (Report V)) (status : RemoteStatus) :
    statuses id (said ++ [.polled id status]) = statuses id said ++ [status] := by
  rw [statuses_concat, Report.status?, if_pos rfl]
  rfl

lemma outcomes_concat_polled (id i : RunId) (said : List (Report V)) (status : RemoteStatus) :
    outcomes id (said ++ [.polled i status]) = outcomes id said := by
  rw [outcomes_concat]
  exact List.append_nil _

lemma outcomes_concat_of_subject?_ne (h : r.subject? ≠ some id) :
    outcomes id (said ++ [r]) = outcomes id said := by
  rw [outcomes_concat, Report.outcome?_of_subject?_ne h]
  exact List.append_nil _

lemma ids_concat_polled (i : RunId) (said : List (Report V)) (status : RemoteStatus) :
    ids (said ++ [.polled i status]) = ids said := by
  rw [ids_concat]
  exact List.append_nil _

lemma Told.nodup_ids (h : Told said) : (ids said).Nodup := by
  induction said using List.reverseRecOn with
  | nil => exact List.nodup_nil
  | append_singleton said r ih =>
    have hr : r.Fits said := h said r [] rfl
    have hbefore : (ids said).Nodup := ih h.of_append
    rw [ids_concat]
    cases r with
    | submitted jobId launch id =>
      have hnew : id ∉ ids said := hr
      rw [Report.id?, Option.toList_some, ← List.concat_eq_append]
      exact List.Nodup.concat hnew hbefore
    | _ => simpa [Report.id?] using hbefore

/-! ### What is known of one run -/

/-- What a cluster knows of a run after what became known. -/
inductive Phase (id : RunId) (said : List (Report V)) : Option (LocalRun V) → Prop
  /-- Nobody submitted the run. -/
  | unsubmitted (a : Nat) (hid : id ∉ ids said) (houtcomes : outcomes id said = [])
      (hstatuses : statuses id said = replicate a .unknown) : Phase id said none
  /-- The outcome is awaited. -/
  | active {jobId : JobId} {first launch : Launched V} (a b : Nat)
      (hfirst : .submitted jobId first id ∈ said) (hsame : launch.outcome = first.outcome)
      (hawaits : launch.handle.Awaits launch.outcome)
      (hkilled : launch.handle.cancelling = true → .killed id (.ok ()) ∈ said)
      (houtcomes : outcomes id said = [])
      (hstatuses : statuses id said = replicate a .unknown ++ replicate b .running) :
      Phase id said (some (.active launch))
  /-- The outcome was taken. -/
  | settling (a b : Nat) (outcome : LaunchOutcome V) (hid : id ∈ ids said)
      (houtcomes : outcomes id said = [outcome])
      (hstatuses : statuses id said = replicate a .unknown ++ replicate b .running) :
      Phase id said (some .settling)
  /-- The status of the outcome was noted. -/
  | done (a b c : Nat) (outcome : LaunchOutcome V) (hid : id ∈ ids said)
      (houtcomes : outcomes id said = [outcome])
      (hstatuses : statuses id said =
        replicate a .unknown ++ replicate b .running ++ replicate c (.ofOutcome outcome)) :
      Phase id said (some (.done (.ofOutcome outcome)))

lemma mem_ids {launch : Launched V} (h : .submitted jobId launch id ∈ said) : id ∈ ids said :=
  List.mem_filterMap.2 ⟨_, h, rfl⟩

lemma mem_outcomes {outcome : LaunchOutcome V} :
    outcome ∈ outcomes id said ↔ .took id outcome ∈ said := by
  rw [outcomes, List.mem_filterMap]
  constructor
  · rintro ⟨r, hr, hr'⟩
    cases r with
    | took i o =>
      rw [Report.outcome?] at hr'
      split_ifs at hr' with hi
      obtain rfl := Option.some.inj hr'
      rwa [← hi]
    | _ => cases hr'
  · intro h
    exact ⟨_, h, if_pos rfl⟩

namespace Phase

variable {run : Option (LocalRun V)}

lemma mem_ids_iff (h : Phase id said run) : id ∈ ids said ↔ run.isSome := by
  cases h with
  | unsubmitted a hid => simpa using hid
  | active a b hfirst => simpa using mem_ids hfirst
  | settling a b outcome hid => simpa using hid
  | done a b c outcome hid => simpa using hid

lemma concat_of_ne (h : Phase id said run) (hr : r.subject? ≠ some id) :
    Phase id (said ++ [r]) run := by
  have hmore {x : Report V} (hx : x ∈ said) : x ∈ said ++ [r] := List.mem_append_left [r] hx
  have hids : id ∈ ids (said ++ [r]) ↔ id ∈ ids said := by
    rw [ids_concat, List.mem_append, or_iff_left]
    exact fun hnew => Report.id?_ne_of_subject?_ne hr (Option.mem_toList.1 hnew)
  have houtcomes : outcomes id (said ++ [r]) = outcomes id said :=
    outcomes_concat_of_subject?_ne hr
  have hstatuses : statuses id (said ++ [r]) = statuses id said := by
    rw [statuses_concat, Report.status?_of_subject?_ne hr]
    exact List.append_nil _
  cases h with
  | unsubmitted a hid ho hs =>
    exact .unsubmitted a (by rwa [hids]) (by rwa [houtcomes]) (by rwa [hstatuses])
  | active a b hfirst hsame hawaits hkilled ho hs =>
    exact .active a b (hmore hfirst) hsame hawaits (fun hc => hmore (hkilled hc))
      (by rwa [houtcomes]) (by rwa [hstatuses])
  | settling a b outcome hid ho hs =>
    exact .settling a b outcome (hids.2 hid) (by rwa [houtcomes]) (by rwa [hstatuses])
  | done a b c outcome hid ho hs =>
    exact .done a b c outcome (hids.2 hid) (by rwa [houtcomes]) (by rwa [hstatuses])

lemma submitted {launch : Launched V} (h : Phase id said none)
    (hfresh : launch.handle = .fresh) (jobId : JobId) :
    Phase id (said ++ [.submitted jobId launch id]) (some (.active launch)) := by
  cases h with
  | unsubmitted a hid houtcomes hstatuses =>
    refine .active a 0 (List.mem_append_right said (List.mem_singleton.2 rfl)) rfl ?_ ?_ ?_ ?_
    · rw [hfresh]
      exact LaunchHandle.awaits_fresh launch.outcome
    · rw [hfresh]
      exact fun hcancelling => absurd hcancelling Bool.false_ne_true
    · rw [outcomes_concat, houtcomes]
      rfl
    · rw [statuses_concat, hstatuses]
      rfl

/-- The outcome of a run is that of its launch, or the run was stopped. -/
theorem took {launch : Launched V} {outcome : LaunchOutcome V} {handle : LaunchHandle _}
    (h : Phase id said (some (.active launch)))
    (htake : launch.handle.take? = some (outcome, handle)) :
    Phase id (said ++ [.took id outcome]) (some .settling) ∧
      (Report.took id outcome).Fits said := by
  cases h with
  | @active jobId first launch a b hfirst hsame hawaits hkilled houtcomes hstatuses =>
    constructor
    · refine .settling a b outcome ?_ ?_ ?_
      · rw [ids_concat]
        exact List.mem_append_left _ (mem_ids hfirst)
      · rw [outcomes_concat, houtcomes, Report.outcome?, if_pos rfl]
        rfl
      · simp [statuses_concat, hstatuses, Report.status?]
    · -- the handle gives what the worker came to, or a cancellation that somebody asked for
      refine ⟨jobId, first, hfirst, ?_⟩
      rcases hawaits.of_take? htake with hown | ⟨hcancelled, hcancelling⟩
      · exact .inl (hown.trans hsame)
      · exact .inr ⟨hcancelled, hkilled hcancelling⟩

lemma killed {launch : Launched V} (h : Phase id said (some (.active launch))) :
    Phase id (said ++ [.killed id (.ok ())]) (some (.active launch.cancel)) := by
  have hnothing : Report.subject? (.killed id (.ok ()) : Report V) ≠ some id := nofun
  cases h.concat_of_ne hnothing with
  | active a b hfirst hsame hawaits hkilled houtcomes hstatuses =>
    refine .active a b hfirst hsame hawaits.cancel (fun _ => ?_) houtcomes hstatuses
    exact List.mem_append_right said (List.mem_singleton.2 rfl)

end Phase

lemma ofOutcome_ne (outcome : LaunchOutcome V) :
    RemoteStatus.ofOutcome outcome ≠ .unknown ∧ RemoteStatus.ofOutcome outcome ≠ .running := by
  unfold RemoteStatus.ofOutcome
  split
  · split_ifs <;> decide
  · decide
  · decide

/-- The status of a run as long as no outcome is taken. -/
def standing : Option (LocalRun V) → RemoteStatus
  | none => .unknown
  | some (.done status) => status
  | some _ => .running

/-- A status that is told fits what became known before, and nothing else is known afterwards. -/
theorem Phase.polled {run : Option (LocalRun V)} (h : Phase id said run) :
    Phase id (said ++ [.polled id (standing run)]) run ∧
      (Report.polled id (standing run)).Fits said := by
  have hknown : id ∈ ids said ↔ run.isSome := h.mem_ids_iff
  have hmore := statuses_concat_polled id said (standing run)
  have hsame := outcomes_concat_polled id id said (standing run)
  have hids := ids_concat_polled id said (standing run)
  cases h with
  | unsubmitted a hid houtcomes hstatuses =>
    constructor
    · refine .unsubmitted (a + 1) (by rwa [hids]) (by rwa [hsame]) ?_
      rw [hmore, hstatuses, List.replicate_succ']
      rfl
    · exact ⟨iff_of_true rfl hid, fun hne => absurd rfl hne⟩
  | active a b hfirst hkept hawaits hkilled houtcomes hstatuses =>
    have hmem : id ∈ ids said := mem_ids hfirst
    constructor
    · refine .active a (b + 1) (List.mem_append_left _ hfirst) hkept hawaits
        (fun hcancelling => List.mem_append_left _ (hkilled hcancelling)) (by rwa [hsame]) ?_
      rw [hmore, hstatuses, List.append_assoc, List.replicate_succ']
      rfl
    · exact ⟨iff_of_false nofun (not_not_intro hmem), fun _ hne => absurd rfl hne⟩
  | settling a b outcome hid houtcomes hstatuses =>
    constructor
    · refine .settling a (b + 1) outcome (by rwa [hids]) (by rwa [hsame]) ?_
      rw [hmore, hstatuses, List.append_assoc, List.replicate_succ']
      rfl
    · exact ⟨iff_of_false nofun (not_not_intro hid), fun _ hne => absurd rfl hne⟩
  | done a b c outcome hid houtcomes hstatuses =>
    constructor
    · refine .done a b (c + 1) outcome (by rwa [hids]) (by rwa [hsame]) ?_
      rw [hmore, hstatuses, List.append_assoc, List.replicate_succ']
      rfl
    · refine ⟨iff_of_false (ofOutcome_ne outcome).1 (not_not_intro hid), fun _ _ => ?_⟩
      exact ⟨outcome, mem_outcomes.1 (by rw [houtcomes]; exact List.mem_singleton_self _), rfl⟩

/-- The status of a run is the one of the outcome that was taken. -/
theorem Phase.settled {run : Option (LocalRun V)} {outcome : LaunchOutcome V}
    (h : Phase id said run) (houtcome : outcomes id said = [outcome]) :
    Phase id (said ++ [.polled id (.ofOutcome outcome)]) (some (.done (.ofOutcome outcome))) ∧
      (Report.polled id (.ofOutcome outcome)).Fits said := by
  cases h with
  | unsubmitted a hid houtcomes hstatuses =>
    rw [houtcomes] at houtcome
    cases houtcome
  | active a b hfirst hsame hawaits hkilled houtcomes hstatuses =>
    rw [houtcomes] at houtcome
    cases houtcome
  | settling a b outcome' hid houtcomes hstatuses =>
    -- the run is known by its status as soon as this is noted
    have hdone : Phase id said (some (.done (.ofOutcome outcome))) :=
      .done a b 0 outcome hid houtcome (by rw [hstatuses]; exact (List.append_nil _).symm)
    exact hdone.polled
  | done a b c outcome' hid houtcomes hstatuses =>
    obtain rfl : outcome' = outcome := by simpa [houtcomes] using houtcome
    exact (Phase.done a b c outcome' hid houtcomes hstatuses).polled

lemma Phase.outcomes_of_active {launch : Launched V}
    (h : Phase id said (some (.active launch))) : outcomes id said = [] := by
  cases h with
  | active _ _ _ _ _ _ houtcomes _ => exact houtcomes

/-- A run as the time goes on. -/
def passRun (now later : Nat) : LocalRun V → LocalRun V
  | .active launch => .active (launch.passTo now later)
  | run => run

lemma Phase.passRun {run : Option (LocalRun V)} (h : Phase id said run) (now later : Nat) :
    Phase id said (run.map (passRun now later)) := by
  cases h with
  | unsubmitted a hid houtcomes hstatuses => exact .unsubmitted a hid houtcomes hstatuses
  | active a b hfirst hsame hawaits hkilled houtcomes hstatuses =>
    refine .active a b hfirst (by rwa [Launched.outcome_passTo]) ?_ (fun hcancelling => ?_)
      houtcomes hstatuses
    · rw [Launched.outcome_passTo]
      exact Launched.awaits_passTo hawaits now later
    · rw [Launched.cancelling_passTo] at hcancelling
      exact hkilled hcancelling
  | settling a b outcome hid houtcomes hstatuses =>
    exact .settling a b outcome hid houtcomes hstatuses
  | done a b c outcome hid houtcomes hstatuses => exact .done a b c outcome hid houtcomes hstatuses

end JobSupervision.LocalCluster
