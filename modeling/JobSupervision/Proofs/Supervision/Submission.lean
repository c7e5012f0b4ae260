/-
# At most one submission

A job is submitted at most once, however many tasks call on its container and wherever they
are dropped, and a container that was restored is never submitted.  Until recovery goes over
to another run, every snapshot that shows a run shows the one run that the submission gave, or
that the container was restored with.
-/
import JobSupervision.Proofs.Supervision.Course
import JobSupervision.Proofs.Supervision.Soundness

namespace JobSupervision

variable {policy : RetryPolicy}

namespace Supervision

/-! ### Dialogue steps -/

lemma DialogueStep.states_of_submits {s : DialogueStep}
    (h : Exchange policy s.before s.trigger s.dialogue)
    (hs : s.submits = true) : s.before.state = .created ∧ s.after.state = .submitting := by
  obtain ⟨task, purpose, cell, before, trigger, dialogue⟩ := s
  dsimp only at h
  cases h with
  | submit h next => exact ⟨h, rfl⟩
  | _ => cases hs

lemma DialogueStep.created_of_after {s : DialogueStep}
    (h : Exchange policy s.before s.trigger s.dialogue)
    (hs : s.after.state = .created) : s.before.state = .created := by
  have hbecome := h.canBecome
  rw [← after, hs] at hbecome
  rcases hbecome with h | h
  · exact h.symm
  · cases hstate : s.before.state <;> rw [hstate] at h <;> cases h

/-- The run of a container changes only when its job is accepted and when recovery goes over
to another run. -/
lemma DialogueStep.runId_after {s : DialogueStep}
    (h : Exchange policy s.before s.trigger s.dialogue)
    (hs : s.adopts = false) :
    s.before.state = .submitting ∧ s.after.state = .running ∧ s.accepted? = s.after.runId ∨
      s.accepted? = none ∧ s.after.runId = s.before.runId := by
  obtain ⟨task, purpose, cell, before, trigger, dialogue⟩ := s
  dsimp only at h
  cases h with
  | accepted h i r => exact .inl ⟨h, rfl, rfl⟩
  | adopt h i r hr => simp [adopts, hr] at hs
  | _ => exact .inr ⟨rfl, rfl⟩

/-! ### The life of a container -/

/-- A life has no submission before the container was submitted, and one at most afterwards. -/
lemma Life.countP_submits {first k : Container} {said : List DialogueStep}
    (h : Life policy first said k) :
    k.state = .created ∧ first.state = .created ∧ said.countP (·.submits) = 0 ∨
      k.state ≠ .created ∧
        said.countP (·.submits) ≤ if first.state = .created then 1 else 0 := by
  induction h with
  | start h =>
    obtain ⟨i, rfl | ⟨r, rfl⟩⟩ := h
    · exact .inl ⟨rfl, rfl, rfl⟩
    · exact .inr ⟨by simp [Container.restore], by simp⟩
  | dialogueStep s h hs ih =>
    rw [List.countP_append, List.countP_singleton]
    by_cases hsub : s.submits = true
    -- a submission is the first one, because it leaves the first state for good
    · obtain ⟨hbefore, hafter⟩ := s.states_of_submits hs hsub
      rcases ih with ⟨-, hfirst, hzero⟩ | ⟨hne, -⟩
      · refine .inr ⟨by rw [hafter]; decide, ?_⟩
        exact Nat.le_of_eq (by simp [hzero, hsub, hfirst])
      · exact absurd hbefore hne
    · rw [if_neg hsub, Nat.add_zero]
      by_cases hafter : s.after.state = .created
      · rcases ih with ⟨-, hrest⟩ | ⟨hne, -⟩
        · exact .inl ⟨hafter, hrest⟩
        · exact absurd (s.created_of_after hs hafter) hne
      · rcases ih with ⟨-, hfirst, hzero⟩ | ⟨-, hle⟩
        · exact .inr ⟨hafter, by omega⟩
        · exact .inr ⟨hafter, hle⟩

/-- The run that a container was restored with, or else the first one that it was given. -/
def givenRun? (first : Option Container) (said : List DialogueStep) : Option RunId :=
  (first.bind (·.runId)).or (said.findSome? DialogueStep.accepted?)

/-- A run that was given stays the one that was given first. -/
lemma givenRun?_append {first : Option Container} {said : List DialogueStep} {r : RunId}
    (h : givenRun? first said = some r) (s : DialogueStep) :
    givenRun? first (said ++ [s]) = some r := by
  rw [givenRun?, Option.or_eq_some_iff] at h ⊢
  rw [List.findSome?_append]
  rcases h with h | ⟨hnone, h⟩
  · exact .inl h
  · exact .inr ⟨hnone, by rw [h]; rfl⟩

lemma Life.runId_eq_none {first k : Container} {said : List DialogueStep}
    (h : Life policy first said k) (hk : k.state = .created ∨ k.state = .submitting) :
    k.runId = none :=
  h.recorded.sound.1.early hk

/-- As long as recovery goes over to no other run, a container has the run that it was given,
and no snapshot shows another one. -/
lemma Life.runId_eq_givenRun? {first k : Container} {said : List DialogueStep}
    (h : Life policy first said k) (hadopts : ∀ s ∈ said, s.adopts = false) :
    k.runId = givenRun? (some first) said ∧
      ∀ s ∈ said, ∀ shown r, s.reply? = some (.ok (.snapshot shown)) → shown.runId = some r →
        givenRun? (some first) said = some r := by
  induction h with
  | start h =>
    refine ⟨?_, fun s hs => by cases hs⟩
    rw [givenRun?, List.findSome?_nil, Option.or_none]
    rfl
  | @dialogueStep said s h hs ih =>
    have hsaid : ∀ s' ∈ said, s'.adopts = false := fun s' hs' =>
      hadopts s' (List.mem_append_left _ hs')
    have hnone : s.adopts = false := hadopts s (List.mem_append_right _ (List.mem_singleton_self s))
    obtain ⟨hrun, hshown⟩ := ih hsaid
    have hafter : s.after.runId = givenRun? (some first) (said ++ [s]) := by
      rcases s.runId_after hs hnone with ⟨hbefore, -, haccepted⟩ | ⟨haccepted, hsame⟩
      -- the run is the first one, because a container that waits for its run has none
      · rw [h.runId_eq_none (.inr hbefore), givenRun?, eq_comm, Option.or_eq_none_iff] at hrun
        rw [givenRun?, List.findSome?_append, hrun.1, hrun.2, ← haccepted]
        simp
      · rw [hsame, hrun, givenRun?, givenRun?, List.findSome?_append]
        simp [haccepted]
    refine ⟨hafter, fun s' hs' shown r hreply hr => ?_⟩
    rcases List.mem_append.1 hs' with hs' | hs'
    · exact givenRun?_append (hshown s' hs' shown r hreply hr) s
    · rw [List.mem_singleton.1 hs'] at hreply
      rw [← hafter]
      rw [s.snapshot_of_reply? hs hreply] at hr
      exact hr

/-! ### Tasks that submit -/

/-- Whether a task is started to submit a job. -/
def Activity.isRun : Activity → Bool
  | .fresh (.start _) => true
  | .fresh (.call _ .run) => true
  | _ => false

/-- What a task does that was started to submit a job. -/
def Activity.OfRun : Activity → Prop
  | .calling _ (.arriving e) p => e = .run ∧ (p = .deliver ∨ p = .start)
  | .calling _ (.queued e) p => e = .run ∧ (p = .deliver ∨ p = .start)
  | .calling _ (.asking q _ _) p => (∃ i, q = .submit i) ∧ (p = .deliver ∨ p = .start)
  | .finished r => ∀ v, r = .ok (.call v) → ∃ shown, v = .snapshot shown ∧ shown.state ≠ .created
  | a => a.isRun = true

lemma Activity.ofRun_of_isRun {a : Activity} (h : a.isRun = true) : a.OfRun := by
  cases a with
  | fresh request => exact h
  | _ => cases h

/-- A reply to a submission shows a container that was submitted. -/
lemma sequel_ofRun {σ : Type} {rules : Rules} (w : World σ) (c : CellId) {p : Purpose}
    (hp : p = .deliver ∨ p = .start) {reply : CallReply}
    (h : ∀ v, reply = .ok v → ∃ shown, v = .snapshot shown ∧ shown.state ≠ .created) :
    (w.sequel rules c p reply).OfRun := by
  have hfinished : (Activity.finished (callResult reply)).OfRun := by
    intro v hv
    rcases reply with e | v'
    · cases hv
    · cases hv
      exact h _ rfl
  rcases hp with rfl | rfl <;> exact hfinished

/-- A call that submits goes on with the submission or ends. -/
lemma CallStage.fits_run {stage : CallStage} {trigger : Trigger} {c : CellId} {p : Purpose}
    (h : (Activity.calling c stage p).OfRun) (htrigger : stage.Fits trigger) :
    (p = .deliver ∨ p = .start) ∧
      (trigger = .operation .run ∨ ∃ i a, trigger = .answer (.submit i) a) := by
  cases stage with
  | arriving e =>
    obtain ⟨rfl, hp⟩ := h
    cases trigger with
    | operation e => exact ⟨hp, .inl (congrArg Trigger.operation htrigger)⟩
    | answer q a => exact htrigger.elim
  | queued e =>
    obtain ⟨rfl, hp⟩ := h
    cases trigger with
    | operation e => exact ⟨hp, .inl (congrArg Trigger.operation htrigger)⟩
    | answer q a => exact htrigger.elim
  | asking q next due =>
    obtain ⟨⟨i, rfl⟩, hp⟩ := h
    cases trigger with
    | operation e => exact htrigger.elim
    | answer q a =>
      obtain rfl : q = .submit i := htrigger
      exact ⟨hp, .inr ⟨i, a, rfl⟩⟩
  | resting e due => cases h

lemma Course.ofRun {σ : Type} {rules : Rules} {a a' : Activity} (h : Course σ rules a a')
    (ha : a.OfRun) : a'.OfRun := by
  cases h with
  | dropped a hnot =>
    intro v hv
    cases hv
  | begun w request b a ho =>
    cases ho with
    | refused request e =>
      intro v hv
      cases hv
    | start j c => exact ⟨rfl, .inr rfl⟩
    | call c e =>
      cases e with
      | run => exact ⟨rfl, .inl rfl⟩
      | _ => cases ha
    | _ => cases ha
  | moved w a a' hm =>
    cases hm with
    | vanish c stage p hc =>
      intro v hv
      cases hv
    | _ => cases ha
  | queued c e p => exact ha
  | asked c stage p k trigger htrigger k' events q next hs due =>
    obtain ⟨hp, rfl | ⟨i, a, rfl⟩⟩ := CallStage.fits_run ha htrigger
    · cases hs with
      | submit => exact ⟨⟨_, rfl⟩, hp⟩
      | attemptKnown e he => exact he.elim
      | attemptUnknown e he => exact he.elim
    · cases hs
  | replied w c stage p k trigger htrigger k' events reply hs =>
    obtain ⟨hp, rfl | ⟨i, a, rfl⟩⟩ := CallStage.fits_run ha htrigger
    · refine sequel_ofRun w c hp fun v hv => ?_
      cases hs with
      | leave e he =>
        cases hv
        exact ⟨_, rfl, he⟩
    · refine sequel_ofRun w c hp fun v hv => ?_
      cases hs with
      | accepted hk i r =>
        cases hv
        exact ⟨_, rfl, fun hstate => ContainerState.noConfusion hstate⟩
      | rejected => cases hv
  | putOff c stage p k trigger htrigger k' events delay e hs stage' hst =>
    obtain ⟨hp, rfl | ⟨i, a, rfl⟩⟩ := CallStage.fits_run ha htrigger
    · cases hs
    · cases hs

lemma ofRun_of_courses {σ : Type} {rules : Rules} {a a' : Activity}
    (h : Relation.ReflTransGen (Course σ rules) a a') (ha : a.OfRun) : a'.OfRun := by
  induction h with
  | refl => exact ha
  | tail _ hstep ih => exact hstep.ofRun ih

namespace World

variable {σ : Type}

/-- In every run, whatever tasks there are and wherever they are dropped: a container is
submitted at most once, and not at all if it was restored; a task that was started to submit a
job and does not fail shows a container that was submitted; and all snapshots that show a run
show the one that the container was given, unless recovery went over to another run. -/
theorem submits_at_most_once (rules : Rules) (cluster : Cluster σ) (state : σ)
    (bus : EventBus ContainerEvent) (actions : List (Action σ)) (c : CellId) :
    let w := empty state bus
    let first := (w.newcomers rules cluster actions)[c]?
    let said := about c (w.history rules cluster actions)
    said.countP (·.submits) ≤ 1 ∧
      (∀ i r, first = some (.restore i r) → said.countP (·.submits) = 0) ∧
      (∀ t a v, (w.starters rules cluster actions)[t]? = some a → a.isRun = true →
        (w.play rules cluster actions).result? t = some (.ok (.call v)) →
          ∃ shown, v = .snapshot shown ∧ shown.state ≠ .created) ∧
      ((∀ s ∈ said, s.adopts = false) →
        ∀ s ∈ said, ∀ shown r, s.reply? = some (.ok (.snapshot shown)) → shown.runId = some r →
          givenRun? first said = some r) := by
  intro w first said
  have hrun : ∀ t a v, (w.starters rules cluster actions)[t]? = some a → a.isRun = true →
      (w.play rules cluster actions).result? t = some (.ok (.call v)) →
        ∃ shown, v = .snapshot shown ∧ shown.state ≠ .created := by
    intro t a v ha hisRun hv
    obtain ⟨a', ha', hcourse⟩ := course_of_activity? (result?_eq hv)
    cases ha.symm.trans ha'
    exact ofRun_of_courses hcourse (Activity.ofRun_of_isRun hisRun) v rfl
  have hlife := life_play rules cluster state bus actions c
  by_cases hlt : c < (w.play rules cluster actions).cells.length
  · obtain ⟨k, hk⟩ := exists_container? hlt
    obtain ⟨k₀, hfirst, hlife⟩ := hlife.2 k hk
    have hcount := hlife.countP_submits
    refine ⟨?_, fun i r hrestore => ?_, hrun, fun hadopts => ?_⟩
    · rcases hcount with ⟨-, -, hzero⟩ | ⟨-, hle⟩
      · rw [hzero]
        exact Nat.zero_le 1
      · refine Nat.le_trans hle ?_
        split
        · exact Nat.le_refl 1
        · exact Nat.zero_le 1
    · cases hfirst.symm.trans hrestore
      rcases hcount with ⟨-, -, hzero⟩ | ⟨-, hle⟩
      · exact hzero
      · exact Nat.le_zero.1 hle
    · have hgiven := (hlife.runId_eq_givenRun? hadopts).2
      rw [← hfirst] at hgiven
      exact hgiven
  · have hnil : said = [] := hlife.1 (Nat.le_of_not_lt hlt)
    refine ⟨by simp [hnil], fun i r _ => by simp [hnil], hrun, fun _ s hs => ?_⟩
    rw [hnil] at hs
    cases hs

end World

end Supervision

end JobSupervision
