/-
# Releases

A release looks at the container of a job and, if the container has ended, forgets the job.
In between it waits for the lock of the container, and by the time it goes on the job may have
been released and entered again.  Jobs that have not ended are kept exactly if no release forgets
a job that has another container by then, and that takes two releases of one job that overlap
(`overlap_of_isStale`).
-/
import JobSupervision.Proofs.Supervision.Polling

namespace JobSupervision.Supervision

variable {σ : Type} {rules : Rules} {cluster : Cluster σ} {w w' : World σ}

/-- The job that is forgotten at the end of a dialogue step, because its release has found the
container ended. -/
def DialogueStep.releases? (s : DialogueStep) : Option JobId :=
  match s.purpose, s.reply? with
  | .release j, some (.ok (.snapshot shown)) => if shown.state.isTerminal then some j else none
  | _, _ => none

/-- A release that forgets a job has found the container ended. -/
lemma DialogueStep.of_releases? {s : DialogueStep} {j : JobId} (h : s.releases? = some j) :
    s.purpose = .release j ∧
      ∃ shown, s.reply? = some (.ok (.snapshot shown)) ∧ shown.state.isTerminal = true := by
  unfold releases? at h
  split at h
  · next j' shown hpurpose hreply =>
    split at h
    · next hterminal =>
      cases h
      exact ⟨hpurpose, shown, hreply, hterminal⟩
    · cases h
  · cases h

lemma Course.of_release {x : Activity} {c : CellId} {stage : CallStage} {j : JobId}
    (h : Course σ rules x (.calling c stage (.release j))) :
    (∃ stage', x = .calling c stage' (.release j)) ∨ x = .fresh (.release j) := by
  generalize ha : Activity.calling c stage (.release j) = a at h
  cases h with
  | dropped => cases ha
  | begun w request b a ho =>
    cases ho with
    | release => cases ha; exact .inr rfl
    | _ => cases ha
  | moved w x a hm =>
    cases hm with
    | comeBack => cases ha; exact .inl ⟨_, rfl⟩
    | _ => cases ha
  | queued => cases ha; exact .inl ⟨_, rfl⟩
  | asked => cases ha; exact .inl ⟨_, rfl⟩
  | replied w c' stage' p k trigger htrigger k' events reply =>
    rcases World.sequel_cases rules w c' p reply with ⟨r, hr⟩ | hr | ⟨due, hr⟩ <;>
      cases ha.trans hr
  | putOff => cases ha; exact .inl ⟨_, rfl⟩

namespace World

/-! ### The registry in a change -/

lemma lookup?_book {b : Bookkeeping} {j : JobId} {c : CellId} (h : w.lookup? j = some c)
    (henter : ∀ c' j', b = .enter c' j' → w.lookup? j' = none) (hne : b ≠ .forget j) :
    (w.book b).lookup? j = some c := by
  cases b with
  | keep => exact h
  | supervise c' j' => rcases w.book_supervise_cases c' j' with hb | ⟨-, hb⟩ <;> rw [hb] <;> exact h
  | forget j' =>
    have hfilter : (w.registry.filter fun r => r.1 ≠ j').lookup j = some c := by
      obtain ⟨l₁, l₂, hl, hbefore⟩ := List.lookup_eq_some_iff.1 h
      have hj : j ≠ j' := fun he => hne (he ▸ rfl)
      refine List.lookup_eq_some_iff.2 ⟨l₁.filter fun r => r.1 ≠ j', l₂.filter fun r => r.1 ≠ j',
        ?_, fun p hp => hbefore p (List.mem_filter.1 hp).1⟩
      simp [hl, hj]
    cases hs : w.supervisors.lookup j' with
    | none => rwa [book_forget_of_none hs]
    | some s => rwa [book_forget_of_some hs]
  | dismiss j' =>
    cases hs : w.supervisors.lookup j' with
    | none => rwa [book_dismiss_of_none hs]
    | some s => rwa [book_dismiss_of_some hs]
  | take j' => exact h
  | close => exact h
  | cancel => exact h
  | enter c' j' =>
    have hj : (j == j') = false := by
      rw [beq_eq_false_iff_ne]
      rintro rfl
      cases h.symm.trans (henter c' j rfl)
    rw [World.lookup?, World.book, List.lookup_cons, hj]
    exact h

lemma lookup?_forget (w : World σ) (j : JobId) : (w.book (.forget j)).lookup? j = none := by
  have hfilter : (w.registry.filter fun r => r.1 ≠ j).lookup j = none := by
    refine List.lookup_eq_none_iff.2 fun p hp => ?_
    have hne : p.1 ≠ j := by simpa using (List.mem_filter.1 hp).2
    exact bne_iff_ne.2 hne.symm
  cases hs : w.supervisors.lookup j with
  | none => rwa [book_forget_of_none hs]
  | some s => rwa [book_forget_of_some hs]

/-- Only a release that has found the container ended makes a job lose its container. -/
lemma releases?_of_lookup? {a : Action σ} {s : Option DialogueStep}
    (h : Change rules cluster w a s w') {j : JobId} {c : CellId} (hc : w.lookup? j = some c)
    (hlost : w'.lookup? j ≠ some c) : ∃ s', s = some s' ∧ s'.releases? = some j := by
  cases h with
  | doomed t => exact absurd ((by unfold drop finish; split <;> exact hc)) hlost
  | dropped t => exact absurd ((by unfold drop finish; split <;> exact hc)) hlost
  | begun t task ht hd request hact b a ho =>
    refine absurd (lookup?_book hc (fun c' j' he => ?_) (fun he => ?_)) hlost
    · subst he
      cases ho
    · subst he
      cases ho
  | replied t task ht hd c' stage p hact cell hc' hr trigger k' events reply hu k =>
    refine ⟨_, rfl, ?_⟩
    have hkept : (∀ c'' j', p.booking c' reply ≠ .enter c'' j') → p.booking c' reply = .forget j :=
      fun henter => by
        by_contra hne
        exact hlost (lookup?_book (b := p.booking c' reply) hc
          (fun c'' j' he => absurd he (henter c'' j')) hne)
    rcases booking_cases c' p reply with
      hkeep | ⟨shown, -, hsupervise⟩ | ⟨j', shown, rfl, rfl, hterminal, hforget⟩
    · rw [hkeep] at hkept
      cases hkept fun _ _ he => by cases he
    · rw [hsupervise] at hkept
      cases hkept fun _ _ he => by cases he
    · rw [hforget] at hkept
      cases hkept fun _ _ he => by cases he
      exact if_pos hterminal
  | created identity hnone =>
    refine absurd (lookup?_book (b := .enter w.cells.length identity.jobId)
      (w := (w.addCell (.create identity)).1) hc (fun c' j' he => ?_) (fun he => by cases he)) hlost
    cases he
    exact hnone
  | restored identity runId hd hnone =>
    have henter : (w.enter (.restore identity runId)).lookup? j = some c := by
      refine lookup?_book (w := (w.addCell (.restore identity runId)).1) hc
        (fun c' j' he => ?_) (fun he => by cases he)
      cases he
      exact hnone
    exact absurd (lookup?_book henter (fun c' j' he => by cases he) (fun he => by cases he)) hlost
  | _ => exact absurd hc hlost

/-! ### Releases that overlap -/

lemma forget_of_releases? {a : Action σ} {s : DialogueStep}
    (h : Change rules cluster w a (some s) w') {j : JobId} (hj : s.releases? = some j) :
    ∃ (w₁ : World σ) (r : TaskResult), w' = (w₁.book (.forget j)).goOn s.task (.finished r) := by
  obtain ⟨hpurpose, shown, hreply, hterminal⟩ := DialogueStep.of_releases? hj
  cases h with
  | asked => cases hreply
  | replied t task ht hd c stage p hact cell hc hr trigger c' events reply hu k =>
    obtain rfl : p = .release j := hpurpose
    obtain rfl : reply = .ok (.snapshot shown) := by
      simpa [DialogueStep.reply?, Dialogue.result?] using hreply
    have hbooking : (Purpose.release j).booking c (.ok (.snapshot shown)) = .forget j :=
      if_pos hterminal
    have hsequel : w.sequel rules c (.release j) (.ok (.snapshot shown)) =
        .finished (callResult (.ok (.snapshot shown))) := if_pos hterminal
    rw [hbooking, hsequel]
    exact ⟨_, _, rfl⟩
  | putOff => cases hreply

/-- Whether a release forgets a job that has another container than the one it looked at. -/
def IsStale (rules : Rules) (cluster : Cluster σ) (w : World σ) (a : Action σ) : Prop :=
  ∃ s j c, w.dialogueStepOf? rules cluster a = some s ∧ s.releases? = some j ∧
    w.lookup? j = some c ∧ c ≠ s.cell

/-- While a task is to release a job, the job has the container that the task looks at, unless
another task has released the job in the meantime. -/
lemma released_of_calling {state : σ} {bus : EventBus ContainerEvent}
    {actions : List (Action σ)} {t : TaskId} {c : CellId} {stage : CallStage} {j : JobId}
    (h : ((empty state bus).play rules cluster actions).activity? t =
      some (.calling c stage (.release j))) :
    ((empty state bus).play rules cluster actions).lookup? j = some c ∨
      ∃ m a s stage', actions[m]? = some a ∧
        ((empty state bus).play rules cluster (actions.take m)).dialogueStepOf? rules cluster a =
          some s ∧ s.releases? = some j ∧ s.task ≠ t ∧
        ((empty state bus).play rules cluster (actions.take m)).activity? t =
          some (.calling c stage' (.release j)) := by
  induction actions using List.reverseRecOn generalizing stage with
  | nil => simp [activity?, task?, empty] at h
  | append_singleton actions a ih =>
    have hatt := attentive_run rules cluster state bus actions
    have hchange := act_change rules cluster ((empty state bus).play rules cluster actions) a
    rw [play_concat] at h
    cases hx₀ : ((empty state bus).play rules cluster actions).activity? t with
    | none => cases isStart_of_change hchange h hx₀
    | some x₀ =>
      have hcall : (∃ stage', x₀ = .calling c stage' (.release j)) ∨ x₀ = .fresh (.release j) := by
        rcases hatt.course hchange hx₀ h with rfl | hcourse
        · exact .inl ⟨stage, rfl⟩
        · exact hcourse.of_release
      rcases hcall with ⟨stage', rfl⟩ | rfl
      · rcases ih hx₀ with hlookup | ⟨m, b, s, stage'', hb, hrest⟩
        · -- either the job keeps its container, or this action is a release of it
          by_cases hkept : (((empty state bus).play rules cluster actions).act rules cluster
              a).lookup? j = some c
          · rw [play_concat]
            exact .inl hkept
          · obtain ⟨s, hs, hj⟩ := releases?_of_lookup? hchange hlookup hkept
            refine .inr ⟨actions.length, a, s, stage', by simp, ?_⟩
            rw [List.take_left]
            refine ⟨hs, hj, ?_, hx₀⟩
            rintro rfl
            rw [hs] at hchange
            obtain ⟨w₁, r, hworld⟩ := forget_of_releases? hchange hj
            rw [hworld] at h
            cases activity?_goOn_self h
        · have hlt := (List.getElem?_eq_some_iff.1 hb).1
          refine .inr ⟨m, b, s, stage'', ?_⟩
          rw [List.getElem?_append_left hlt, List.take_append_of_le_length (Nat.le_of_lt hlt)]
          exact ⟨hb, hrest⟩
      · refine .inl ?_
        rw [play_concat]
        rcases opening_of_change hchange hx₀ h with hfresh | hnothing | ⟨b, ho, hworld⟩
        · cases hfresh
        · cases hnothing
        · rw [hworld]
          cases ho with
          | release j c hlookup => exact hlookup

/-- If a release forgets a job that has another container by now, another task has released the
job while the first one was to do so. -/
theorem overlap_of_isStale {state : σ} {bus : EventBus ContainerEvent}
    {actions : List (Action σ)} {a : Action σ}
    (h : ((empty state bus).play rules cluster actions).IsStale rules cluster a) :
    ∃ s j stage, ((empty state bus).play rules cluster actions).dialogueStepOf? rules cluster a =
        some s ∧ s.releases? = some j ∧
      ∃ m a' s', actions[m]? = some a' ∧
        ((empty state bus).play rules cluster (actions.take m)).dialogueStepOf? rules cluster a' =
          some s' ∧ s'.releases? = some j ∧ s'.task ≠ s.task ∧
        ((empty state bus).play rules cluster (actions.take m)).activity? s.task =
          some (.calling s.cell stage (.release j)) := by
  obtain ⟨s, j, c, hs, hj, hlookup, hne⟩ := h
  have hchange := act_change rules cluster ((empty state bus).play rules cluster actions) a
  rw [hs] at hchange
  obtain ⟨stage, hcalling, -⟩ := activity?_of_dialogueStep hchange
  rw [(DialogueStep.of_releases? hj).1] at hcalling
  rcases released_of_calling hcalling with hsame | ⟨m, a', s', stage', hrest⟩
  · exact absurd (Option.some.inj (hlookup.symm.trans hsame)) hne
  · obtain ⟨ha', hs', hj', htask, hactivity⟩ := hrest
    exact ⟨s, j, stage', hs, hj, m, a', s', ha', hs', hj', htask, hactivity⟩

/-! ### Jobs that have not ended -/

/-- What a run owes to those who rely on the containers of their jobs. -/
structure LiveJobsKept (rules : Rules) (cluster : Cluster σ) (w : World σ)
    (actions : List (Action σ)) : Prop where
  /-- A container that a job loses has ended then. -/
  ended : ∀ n j c, (w.play rules cluster (actions.take n)).lookup? j = some c →
    (w.play rules cluster (actions.take (n + 1))).lookup? j ≠ some c →
      ∃ k, (w.play rules cluster (actions.take (n + 1))).container? c = some k ∧
        k.state.isTerminal = true
  /-- A container that a job was given after a release looked at another one stays, and so do
  the tasks that attend to the job. -/
  kept : ∀ n a s j c, actions[n]? = some a →
    (w.play rules cluster (actions.take n)).dialogueStepOf? rules cluster a = some s →
    s.releases? = some j → (w.play rules cluster (actions.take n)).lookup? j = some c →
    c ≠ s.cell → (w.play rules cluster (actions.take (n + 1))).lookup? j = some c ∧
      ∀ t, (w.play rules cluster (actions.take n)).Attends t j →
        (w.play rules cluster (actions.take (n + 1))).Attends t j

/-- In every run, jobs that have not ended are kept exactly if no release forgets a job that has
another container by now. -/
theorem liveJobsKept_iff (rules : Rules) (cluster : Cluster σ) (state : σ)
    (bus : EventBus ContainerEvent) (actions : List (Action σ)) :
    let w := empty state bus
    LiveJobsKept rules cluster w actions ↔
      ∀ n a, actions[n]? = some a →
        ¬ (w.play rules cluster (actions.take n)).IsStale rules cluster a := by
  intro w
  constructor
  · rintro h n a ha ⟨s, j, c, hs, hj, hc, hne⟩
    have hchange := act_change rules cluster (w.play rules cluster (actions.take n)) a
    rw [hs, ← play_take_succ rules cluster w ha] at hchange
    obtain ⟨w₁, r, hworld⟩ := forget_of_releases? hchange hj
    have hkept := (h.kept n a s j c ha hs hj hc hne).1
    rw [hworld] at hkept
    cases (lookup?_forget w₁ j).symm.trans hkept
  · intro hstale
    refine ⟨fun n j c hc hlost => ?_, fun n a s j c ha hs hj hc hne => ?_⟩
    · cases ha : actions[n]? with
      | none =>
        rw [List.take_add_one, ha, Option.toList_none, List.append_nil] at hlost
        exact absurd hc hlost
      | some a =>
        have hchange := act_change rules cluster (w.play rules cluster (actions.take n)) a
        rw [← play_take_succ rules cluster w ha] at hchange
        obtain ⟨s, hs, hj⟩ := releases?_of_lookup? hchange hc hlost
        have hcell : c = s.cell := by
          by_contra hne
          exact hstale n a ha ⟨s, j, c, hs, hj, hc, hne⟩
        subst hcell
        rw [hs] at hchange
        refine ⟨s.after, (container?_of_dialogueStep hchange).2, ?_⟩
        have hatt := attentive_run rules cluster state bus (actions.take n)
        obtain ⟨-, shown, hreply, hterminal⟩ := DialogueStep.of_releases? hj
        rw [s.snapshot_of_reply? (hatt.exchange hchange) hreply] at hterminal
        exact hterminal
    · exact absurd ⟨s, j, c, hs, hj, hc, hne⟩ (hstale n a ha)

/-- Two tasks wait to release one job, which is entered again after the first of them has done
so. -/
def crossedReleases : List (Action Unit) :=
  [.restore (.bare ⟨"a"⟩) ⟨"r"⟩, .request (.stop ⟨"a"⟩), .step 1, .step 1,
    .request (.release ⟨"a"⟩), .step 2, .step 2, .request (.release ⟨"a"⟩), .step 3, .step 3,
    .step 1, .step 2, .create (.bare ⟨"a"⟩), .step 3]

/-- The second release forgets the job, though its new container was not even submitted. -/
theorem not_liveJobsKept_crossedReleases :
    ¬ LiveJobsKept ⟨.standard, .standard⟩ .oblivious (empty () ⟨8, 0, [], [], 0⟩)
      crossedReleases := by
  intro h
  obtain ⟨k, hk, hterminal⟩ := h.ended 13 ⟨"a"⟩ 1 (by decide) (by decide)
  obtain rfl : Container.create (.bare ⟨"a"⟩) = k := Option.some.inj hk
  cases hterminal

end World

end JobSupervision.Supervision
