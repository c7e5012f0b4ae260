/-
# Soundness of containers

Each state of a container says something about its other fields: until it comes to recovery a
container has neither an error nor attempts, before it runs it has no run, and from then on it
has one (`Container.Sound`).  New containers are sound and every passage keeps that, wherever an
operation is dropped.  The run of a container is never lost, and the record tells where it came
from: from the restoration, from the submission, or from a search for the run of the job.
-/
import JobSupervision.Proofs.Supervision.Record

namespace JobSupervision

open Supervision

/-! ### Containers -/

/-- What the state of a container says about its other fields. -/
structure Container.Sound (k : Container) : Prop where
  /-- Up to the time at which it runs well it has neither an error nor attempts. -/
  clear : k.state = .created ∨ k.state = .submitting ∨ k.state = .running →
    k.lastError = none ∧ k.recoveryAttempts = 0
  /-- Before it runs it has no run. -/
  early : k.state = .created ∨ k.state = .submitting → k.runId = none
  /-- From then on it has one, unless it failed. -/
  known : k.state = .running ∨ k.state = .recovering ∨ k.state = .succeeded ∨
    k.state = .killed → k.runId.isSome = true

namespace Container

lemma Sound.of_running {k : Container} (h : k.state = .running) (hr : k.runId.isSome = true)
    (hclear : k.lastError = none ∧ k.recoveryAttempts = 0) : k.Sound :=
  ⟨fun _ => hclear, by simp [h], fun _ => hr⟩

lemma Sound.of_recovering {k : Container} (h : k.state = .recovering)
    (hr : k.runId.isSome = true) : k.Sound :=
  ⟨by simp [h], by simp [h], fun _ => hr⟩

lemma Sound.of_isTerminal {k : Container} (h : k.state.isTerminal = true)
    (hr : k.runId.isSome = true) : k.Sound := by
  obtain ⟨hactive, hcreated, hsubmitting⟩ := state_of_isTerminal h
  have hrunning : k.state ≠ .running := fun hs => hactive (.inl hs)
  refine ⟨?_, ?_, fun _ => hr⟩
  · rintro (hs | hs | hs)
    · exact absurd hs hcreated
    · exact absurd hs hsubmitting
    · exact absurd hs hrunning
  · rintro (hs | hs)
    · exact absurd hs hcreated
    · exact absurd hs hsubmitting

lemma Sound.of_failed {k : Container} (h : k.state = .failed) : k.Sound :=
  ⟨by simp [h], by simp [h], by simp [h]⟩

lemma Sound.of_isNew {k : Container} (h : IsNew k) : k.Sound := by
  obtain ⟨i, rfl | ⟨r, rfl⟩⟩ := h
  · exact ⟨fun _ => ⟨rfl, rfl⟩, fun _ => rfl, by simp [create]⟩
  · exact .of_running rfl rfl ⟨rfl, rfl⟩

lemma Sound.isSome_of_active {k : Container} (h : k.Sound) (hk : k.Active) :
    k.runId.isSome = true :=
  h.known (hk.elim .inl fun hs => .inr (.inl hs))

/-- A container is given up if its state allows it, and stays as it is otherwise. -/
lemma fail_cases (c : Container) (reason : String) :
    (c.fail reason).container = c ∧ (c.fail reason).events = [] ∨
      c.state.canBecome .failed = true ∧
        (c.fail reason).container = { c with state := .failed, lastError := some reason } ∧
        (c.fail reason).events = [.stateChanged c.state .failed c.runId] := by
  by_cases h : c.state.canBecome .failed = true
  · exact .inr ⟨h, by simp [fail, become_of_canBecome h], by simp [fail, become_of_canBecome h]⟩
  · rw [Bool.not_eq_true] at h
    exact .inl ⟨by simp [fail, become_of_not_canBecome h],
      by simp [fail, become_of_not_canBecome h]⟩

end Container

open Container

/-- A dialogue step leaves a sound container sound. -/
lemma Exchange.sound {policy : RetryPolicy} {c : Container} {trigger : Trigger}
    {d : Dialogue Turn} (h : Exchange policy c trigger d) (hc : c.Sound) : d.container.Sound := by
  cases h with
  | leave | showState | askStatus | stillRunning | sameRun | askStop | notStopped | notStoppable
    | rest => exact hc
  | submit h =>
    exact ⟨fun _ => hc.clear (.inl h), fun _ => hc.early (.inl h), by simp [Dialogue.container]⟩
  | accepted h i r => exact .of_running rfl rfl (hc.clear (.inr (.inl h)))
  | rejected => exact .of_failed rfl
  | lost h hr | attemptUnknown e h hr | stopNothing h hr =>
    -- a container that is active has a run
    have hactive : c.Active := by first | exact .inl h | exact h.active | exact h
    have hsome := hc.isSome_of_active hactive
    rw [hr] at hsome
    cases hsome
  | ended h r status s hs =>
    exact .of_isTerminal (RemoteStatus.isTerminal_final hs) (hc.isSome_of_active (.inl h))
  | enterRecovery h => exact .of_recovering rfl (hc.isSome_of_active (.inl h))
  | attemptKnown e h r hr => exact .of_recovering rfl (hc.isSome_of_active h.active)
  | recovered h => exact .of_running rfl (hc.isSome_of_active (.inr h)) ⟨rfl, rfl⟩
  | foundEnded h r status s hs =>
    exact .of_isTerminal (RemoteStatus.isTerminal_final hs) (hc.isSome_of_active (.inr h))
  | search h | giveUp h | noRun h | noSearch h =>
    exact .of_recovering h (hc.isSome_of_active (.inr h))
  | adopt h => exact .of_recovering h rfl
  | stopped h => exact .of_isTerminal rfl (hc.isSome_of_active h)
  | escalated => exact .of_failed rfl

/-- A dialogue step leaves the run as it is, unless a submission or a search for the run of the job
gave another one. -/
lemma Exchange.runId {policy : RetryPolicy} {c : Container} {trigger : Trigger}
    {d : Dialogue Turn} (h : Exchange policy c trigger d) :
    d.container.runId = c.runId ∨ ∃ r, d.container.runId = some r ∧
      (trigger = .answer (.submit c.identity) (.ok r) ∨
        trigger = .answer (.find c.identity) (.ok (some r))) := by
  cases h with
  | accepted h i r hi => exact .inr ⟨r, rfl, .inl (by rw [hi])⟩
  | adopt h i r hr hi => exact .inr ⟨r, rfl, .inr (by rw [hi])⟩
  | _ => exact .inl rfl

/-! ### Passages -/

namespace Passage

variable {policy : RetryPolicy} {p : Passage}

/-- Whether a run was given to a job in a passage, by a submission or by a search. -/
def Gives (p : Passage) (identity : JobIdentity) (r : RunId) : Prop :=
  p.cause = .trigger (.answer (.submit identity) (.ok r)) ∨
    p.cause = .trigger (.answer (.find identity) (.ok (some r)))

lemma Fits.sound (hp : p.Fits policy) (h : p.before.Sound) : p.after.Sound := by
  cases hp with
  | said hs => exact hs.sound h
  | verdict c reason =>
    dsimp only at h ⊢
    rcases c.fail_cases reason with ⟨hsame, -⟩ | ⟨-, hfail, -⟩
    · rwa [hsame]
    · rw [hfail]
      exact .of_failed rfl

lemma Fits.identity (hp : p.Fits policy) : p.after.identity = p.before.identity := by
  cases hp with
  | said hs => exact hs.identity
  | verdict c reason => rcases c.fail_cases reason with ⟨hsame, -⟩ | ⟨-, hfail, -⟩ <;> simp [*]

lemma Fits.runId (hp : p.Fits policy) :
    p.after.runId = p.before.runId ∨
      ∃ r, p.after.runId = some r ∧ p.Gives p.before.identity r := by
  cases hp with
  | said hs =>
    rcases hs.runId with hsame | ⟨r, hr, htrigger⟩
    · exact .inl hsame
    · refine .inr ⟨r, hr, ?_⟩
      exact htrigger.imp (congrArg PassageCause.trigger) (congrArg PassageCause.trigger)
  | verdict c reason =>
    refine .inl ?_
    rcases c.fail_cases reason with ⟨hsame, -⟩ | ⟨-, hfail, -⟩ <;> simp [*]

end Passage

/-! ### Records -/

namespace Supervision

/-- What the record of a container says about the container as it is now. -/
structure WellRecorded (first : Container) (record : List Passage) (k : Container) : Prop where
  /-- The container is sound. -/
  sound : k.Sound
  /-- It is for the same job all the time. -/
  identity : k.identity = first.identity
  /-- If it failed without a run, it never ran. -/
  neverRan : k.state = .failed → k.runId = none →
    first.state ≠ .running ∧ ∀ p ∈ record, p.after.state ≠ .running
  /-- If it ever had a run, it has one. -/
  kept : (first.runId.isSome = true ∨ ∃ p ∈ record, p.after.runId.isSome = true) →
    k.runId.isSome = true
  /-- Its run is the one that it was restored with, or one that a submission or a search gave. -/
  given : ∀ r, k.runId = some r → first.runId = some r ∨ ∃ p ∈ record, p.Gives k.identity r

end Supervision

namespace Recorded

variable {policy : RetryPolicy} {first k : Container} {record : List Passage}

lemma identity (h : Recorded policy first record k) : k.identity = first.identity := by
  induction h with
  | start => rfl
  | passage p h hp ih => exact hp.identity.trans ih

lemma sound (h : Recorded policy first record k) :
    k.Sound ∧ ∀ p ∈ record, p.before.Sound :=
  h.invariant (fun _ hnew => .of_isNew hnew) fun _ hp hbefore => hp.sound hbefore

lemma isSome_runId (h : Recorded policy first record k)
    (hr : first.runId.isSome = true ∨ ∃ p ∈ record, p.after.runId.isSome = true) :
    k.runId.isSome = true := by
  induction h with
  | start =>
    rcases hr with hr | ⟨p, hp, -⟩
    · exact hr
    · cases hp
  | @passage record p h hp ih =>
    -- what is lost with the last passage was there before or is given by it
    have hkept : p.before.runId.isSome = true → p.after.runId.isSome = true := by
      intro hbefore
      rcases hp.runId with hsame | ⟨r, hgiven, -⟩
      · rwa [hsame]
      · rw [hgiven]
        rfl
    rcases hr with hr | ⟨q, hq, hr⟩
    · exact hkept (ih (.inl hr))
    · rcases List.mem_append.1 hq with hq | hq
      · exact hkept (ih (.inr ⟨q, hq, hr⟩))
      · rwa [List.mem_singleton.1 hq] at hr

/-- The run of a container was given to it. -/
lemma given (h : Recorded policy first record k) {r : RunId} (hr : k.runId = some r) :
    first.runId = some r ∨ ∃ p ∈ record, p.Gives k.identity r := by
  induction h generalizing r with
  | start => exact .inl hr
  | @passage record p h hp ih =>
    rw [hp.identity]
    rcases hp.runId with hsame | ⟨r', hafter, hgives⟩
    · rcases ih (hsame.symm.trans hr) with hfirst | ⟨q, hq, hgives⟩
      · exact .inl hfirst
      · exact .inr ⟨q, List.mem_append_left _ hq, hgives⟩
    · cases hafter.symm.trans hr
      exact .inr ⟨p, List.mem_append_right _ (List.mem_singleton_self p), hgives⟩

lemma wellRecorded (h : Recorded policy first record k) : WellRecorded first record k := by
  obtain ⟨hsound, hbefore⟩ := h.sound
  refine ⟨hsound, h.identity, ?_, h.isSome_runId, fun r hr => h.given hr⟩
  intro _ hnone
  have hlost : ¬ (first.runId.isSome = true ∨ ∃ p ∈ record, p.after.runId.isSome = true) := by
    intro hr
    have hsome := h.isSome_runId hr
    rw [hnone] at hsome
    cases hsome
  -- a container that runs has a run
  refine ⟨fun hrun => hlost (.inl ?_), fun p hp hrun => hlost (.inr ⟨p, hp, ?_⟩)⟩
  · exact (Sound.of_isNew h.isNew_first).known (.inl hrun)
  · exact ((h.fits hp).sound (hbefore p hp)).known (.inl hrun)

end Recorded

namespace Supervision.World

variable {σ : Type}

/-- In every run, whatever the owners of containers did with them before, whatever tasks call on
them, and wherever an operation is dropped: a container is as its record says.  With no actions
at all this is about what an owner does alone. -/
theorem wellRecorded_run (rules : Rules) (cluster : Cluster σ) (state : σ)
    (bus : EventBus ContainerEvent) (owned : List Possession) (actions : List (Action σ))
    (c : CellId) (k : Container)
    (hk : ((holding state bus (owned.map (·.container))).play rules cluster actions).container? c =
      some k) :
    let w := holding state bus (owned.map (·.container))
    ∃ first, origin? owned (w.newcomers rules cluster actions) c = some first ∧
      WellRecorded first (recordOf owned (w.history rules cluster actions) c) k := by
  intro w
  obtain ⟨first, hfirst, hrecorded⟩ := recorded_of_container? hk
  exact ⟨first, hfirst, hrecorded.wellRecorded⟩

/-- A cluster that knows no run and has another one for every job. -/
def wandering : Cluster Unit :=
  .steady (fun identity => .ok ⟨identity.jobId.text⟩) .unknown (some ⟨"s"⟩)

/-- A restored container whose owner began a recovery attempt and dropped it while the cluster
looked for the job. -/
def halfRecovered : Possession :=
  ⟨.bare ⟨"a"⟩, some ⟨"r"⟩, [⟨.recover, [fun q => (wandering.answer () q).2]⟩]⟩

/-- The container is shared, and a task that polls it is dropped right after recovery has gone
over to another run. -/
theorem wellRecorded_droppedAdoption :
    let w := holding () ⟨8, 0, [], [], 0⟩ [halfRecovered.container]
    let rules : Rules := ⟨.standard, .standard⟩
    let actions : List (Action Unit) :=
      [.request (.call 0 .poll), .step 0, .step 0, .step 0, .step 0, .drop 0]
    let k : Container :=
      ⟨.bare ⟨"a"⟩, .recovering, some ⟨"s"⟩, some "cluster reported run r as unknown", 2⟩
    (w.play rules wandering actions).container? 0 = some k ∧
      ∃ first, origin? [halfRecovered] (w.newcomers rules wandering actions) 0 = some first ∧
        WellRecorded first (recordOf [halfRecovered] (w.history rules wandering actions) 0) k :=
  ⟨rfl, wellRecorded_run _ _ _ _ [halfRecovered] _ _ _ rfl⟩

end Supervision.World

end JobSupervision
