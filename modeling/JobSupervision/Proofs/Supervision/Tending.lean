/-
# Who tends a container

A caller tends a container by polling or recovering it, again and again between waits, while
others may do the same, stop the container or give it up.  Such a call says nothing but the
operations and questions of recovery, and whoever ends one is shown the container, which is then not
in recovery, or is told that the attempts are used up.  That is told once at most in the life of
a container, by the dialogue step in which it fails, and never before the attempts were made.
-/
import JobSupervision.Proofs.Supervision.Budget
import JobSupervision.Proofs.Supervision.Ending

namespace JobSupervision

/-! ### What is said in a call that tends a container -/

/-- Whether an operation belongs to calls that tend a container. -/
def GuardedOperation.tends : GuardedOperation → Bool
  | .poll | .weigh _ | .attempt _ => true
  | _ => false

/-- Whether a question belongs to calls that tend a container. -/
def Query.tends : Query → Bool
  | .poll _ | .find _ => true
  | _ => false

/-- Whether a trigger belongs to calls that tend a container. -/
def Trigger.tends : Trigger → Bool
  | .operation e => e.tends
  | .answer q _ => q.tends

/-- Whether a dialogue goes on as calls that tend a container do: with one of their questions or
operations, or with the reply that shows the container, not in recovery, or tells that the attempts
are used up. -/
def Dialogue.Tends : Dialogue Turn → Prop
  | .ask _ _ q _ => q.tends = true
  | .done ⟨_, _, .again _ e⟩ => e.tends = true
  | .done ⟨k, _, .reply reply⟩ =>
    reply = GuardedOperation.present k ∧ k.state ≠ .recovering ∨
      ∃ j r n, reply = .error (.recoveryExhausted j r n)

lemma GuardedOperation.state_ne_of_not_needed {c : Container} {attempted : Bool}
    (h : GuardedOperation.needed c attempted = false) : c.state ≠ .recovering := by
  intro hs
  rw [GuardedOperation.needed, hs] at h
  cases h

/-- A dialogue step on a trigger of a call that tends a container goes on as such calls do. -/
lemma Exchange.tends {policy : RetryPolicy} {c : Container} {trigger : Trigger}
    {d : Dialogue Turn}
    (h : Exchange policy c trigger d) (htrigger : trigger.tends = true) : d.Tends := by
  cases h with
  | leave e hleaves =>
    refine .inl ⟨rfl, ?_⟩
    cases e with
    | poll => exact hleaves.2
    | weigh attempted => exact GuardedOperation.state_ne_of_not_needed hleaves
    | attempt attempted => exact GuardedOperation.state_ne_of_not_needed hleaves
    | _ => cases htrigger
  | stillRunning h => exact .inl ⟨rfl, fun hs => by cases h.symm.trans hs⟩
  | recovered => exact .inl ⟨rfl, fun hs => by cases hs⟩
  | ended _ _ _ _ hs => exact .inl ⟨rfl, RemoteStatus.final?_ne_recovering hs⟩
  | foundEnded _ _ _ _ hs => exact .inl ⟨rfl, RemoteStatus.final?_ne_recovering hs⟩
  | escalated => exact .inr ⟨_, _, _, rfl⟩
  | askStatus | attemptKnown | attemptUnknown | search | adopt => exact rfl
  | lost | enterRecovery | giveUp | sameRun | noRun | noSearch | rest => exact rfl
  | _ => cases htrigger

namespace Supervision

variable {σ : Type} {rules : Rules} {cluster : Cluster σ} {w : World σ}

/-- Whether a call stands where calls that tend a container stand. -/
def CallStage.tends : CallStage → Bool
  | .arriving e | .queued e | .resting e _ => e.tends
  | .asking q _ _ => q.tends

lemma CallStage.tends_of_fits {stage : CallStage} {trigger : Trigger} (h : stage.tends = true)
    (htrigger : stage.Fits trigger) : trigger.tends = true := by
  cases stage <;> cases trigger <;> cases htrigger <;> exact h

/-! ### Tasks that tend a container -/

/-- What a task does that was started to tend a container. -/
def Activity.Tends (c : CellId) : Activity → Prop
  | .fresh (.call c' e) => c' = c ∧ e.tends = true
  | .calling c' stage p => c' = c ∧ p = .deliver ∧ stage.tends = true
  | .finished _ => True
  | _ => False

/-- Whether a task, as long as it polls a container for the supervision, says what belongs to
calls that tend a container. -/
def Activity.Watches : Activity → Prop
  | .calling _ stage p => p = .watch → stage.tends = true
  | _ => True

lemma Course.tends {c : CellId} {a a' : Activity} (h : Course σ rules a a') (ha : a.Tends c) :
    a'.Tends c := by
  cases h with
  | dropped => trivial
  | begun w request b a ho =>
    cases ho with
    | refused => trivial
    | call c e => exact ⟨ha.1, rfl, ha.2⟩
    | _ => cases ha
  | moved w a a' hm =>
    cases hm with
    | comeBack => exact ha
    | vanish => trivial
    | _ => cases ha
  | queued => exact ha
  | asked c stage p k trigger htrigger k' events q next hs due =>
    obtain ⟨hc, hp, htends⟩ := ha
    exact ⟨hc, hp, hs.tends (stage.tends_of_fits htends htrigger)⟩
  | replied w c stage p k trigger htrigger k' events reply hs =>
    obtain ⟨-, rfl, -⟩ := ha
    trivial
  | putOff c stage p k trigger htrigger k' events delay e hs stage' hst =>
    obtain ⟨hc, hp, htends⟩ := ha
    have he := hs.tends (stage.tends_of_fits htends htrigger)
    rcases hst with rfl | ⟨due, rfl⟩ <;> exact ⟨hc, hp, he⟩

lemma tends_of_courses {c : CellId} {a a' : Activity}
    (h : Relation.ReflTransGen (Course σ rules) a a') (ha : a.Tends c) : a'.Tends c := by
  induction h with
  | refl => exact ha
  | tail _ hstep ih => exact hstep.tends ih

lemma Course.watches {a a' : Activity} (h : Course σ rules a a') (ha : a.Watches) :
    a'.Watches := by
  cases h with
  | dropped => trivial
  | begun w request b a ho =>
    cases ho with
    | start | stop | status | release | dismissNobody | joinNobody | call =>
      intro hp
      cases hp
    | _ => trivial
  | moved w a a' hm =>
    cases hm with
    | poll => exact fun _ => rfl
    | comeBack => exact ha
    | showCell | showJob =>
      intro hp
      cases hp
    | _ => trivial
  | queued => exact ha
  | asked c stage p k trigger htrigger k' events q next hs due =>
    exact fun hp => hs.tends (stage.tends_of_fits (ha hp) htrigger)
  | replied w c stage p k trigger htrigger k' events reply hs =>
    rcases World.sequel_cases rules w c p reply with ⟨r, hr⟩ | hr | ⟨due, hr⟩
    · rw [hr]
      trivial
    · rw [hr]
      intro hp
      cases hp
    · rw [hr]
      trivial
  | putOff c stage p k trigger htrigger k' events delay e hs stage' hst =>
    intro hp
    have he := hs.tends (stage.tends_of_fits (ha hp) htrigger)
    rcases hst with rfl | ⟨due, rfl⟩ <;> exact he

/-- Whether a task is started to poll or to recover a container. -/
def Activity.StartsTending (c : CellId) (a : Activity) : Prop :=
  a = .fresh (.call c .poll) ∨ a = .fresh (.call c .recover)

lemma Activity.StartsTending.tends {c : CellId} {a : Activity} (h : a.StartsTending c) :
    a.Tends c := by
  rcases h with rfl | rfl <;> exact ⟨rfl, rfl⟩

/-! ### Dialogue steps -/

/-- Whether a dialogue step is part of a call that polls or recovers its container: the task polls
it for the supervision, or was started to poll or to recover it. -/
def DialogueStep.IsTending (begun : List Activity) (s : DialogueStep) : Prop :=
  s.purpose = .watch ∨ ∃ a, begun[s.task]? = some a ∧ a.StartsTending s.cell

/-- Whether a dialogue step ends a call with the news that the attempts are used up, other than by
handing on the error of a submission. -/
def DialogueStep.exhausts (s : DialogueStep) : Bool :=
  match s.reply? with
  | some (.error (.recoveryExhausted ..)) => !s.refuses
  | _ => false

/-- Whoever is told that the attempts are used up has just made the container fail, and none was
left. -/
lemma DialogueStep.of_exhausts {policy : RetryPolicy} {s : DialogueStep}
    (h : Exchange policy s.before s.trigger s.dialogue) (hx : s.exhausts = true) :
    s.before.Active ∧ s.after.state = .failed ∧
      policy.exhausted s.before.recoveryAttempts = true := by
  obtain ⟨task, purpose, cell, before, trigger, dialogue⟩ := s
  dsimp only at h
  cases h with
  | escalated attempted hn hleft => exact ⟨GuardedOperation.active_of_needed hn, rfl, hleft⟩
  | rejected h i e => cases e <;> cases hx
  | _ => cases hx

/-- A dialogue step that shows the container, or its state, does not tell that the attempts are used
up. -/
lemma DialogueStep.Shows.exhausts_eq_false {s : DialogueStep} {k : Container} (h : s.Shows k) :
    s.exhausts = false := by
  rcases h with h | ⟨-, h⟩ <;> simp only [DialogueStep.exhausts, h, GuardedOperation.present]

/-- Whoever ends a call that tends a container is shown the container, not in recovery, or is
told that the attempts are used up. -/
lemma DialogueStep.reply_of_tends {policy : RetryPolicy} {s : DialogueStep}
    (h : Exchange policy s.before s.trigger s.dialogue) (htrigger : s.trigger.tends = true)
    {reply : CallReply} (hreply : s.reply? = some reply) :
    (∃ shown, reply = .ok (.snapshot shown) ∧ shown.state ≠ .recovering) ∨
      s.exhausts = true := by
  have htends := h.tends htrigger
  obtain ⟨task, purpose, cell, before, trigger, dialogue⟩ := s
  cases dialogue with
  | ask => cases hreply
  | done r =>
    obtain ⟨k, events, turn⟩ := r
    cases turn with
    | again => cases hreply
    | reply given =>
      cases hreply
      rcases htends with ⟨rfl, hstate⟩ | ⟨j, r, n, rfl⟩
      · exact .inl ⟨k.snapshot, rfl, hstate⟩
      · refine .inr ?_
        cases trigger with
        | operation => rfl
        | answer q a => cases q <;> first | rfl | cases htrigger

/-- Whether the calls that tend a container come to a good end in a run. -/
structure TendedWell (rules : Rules) (cluster : Cluster σ) (w : World σ)
    (owned : List Possession) (actions : List (Action σ)) (c : CellId) : Prop where
  /-- Whoever ends a call that tends the container is shown the container, not in recovery, or is
  told that the attempts are used up. -/
  replies : ∀ s ∈ about c (w.history rules cluster actions),
    s.IsTending (w.starters rules cluster actions) → ∀ reply, s.reply? = some reply →
      (∃ shown, reply = .ok (.snapshot shown) ∧ shown.state ≠ .recovering) ∨ s.exhausts = true
  /-- A task that was started to tend the container and has a result was dropped, or its result
  is the reply that it was given. -/
  results : ∀ t a r, (w.starters rules cluster actions)[t]? = some a → a.StartsTending c →
    (w.play rules cluster actions).result? t = some r →
      r = .ok .nothing ∨ ∃ s ∈ about c (w.history rules cluster actions), s.task = t ∧
        ∃ reply, s.reply? = some reply ∧ r = callResult reply
  /-- That the attempts are used up is told once at most. -/
  once : (about c (w.history rules cluster actions)).countP (·.exhausts) ≤ 1
  /-- Whoever tells so makes the container fail, after at least as many attempts since it last
  ran as the policy allows. -/
  escalated : ∀ earlier s later, w.history rules cluster actions = earlier ++ s :: later →
    s.cell = c → s.exhausts = true →
      s.before.state.isTerminal = false ∧ s.after.state = .failed ∧
        rules.policy.maxAttempts.toNat ≤ attemptsIn (recordOf owned earlier c)

namespace World

/-! ### Runs -/

lemma tends_of_mem_history (hw : w.tasks = []) {actions : List (Action σ)} {s : DialogueStep}
    (hs : s ∈ w.history rules cluster actions)
    (htending : s.IsTending (w.starters rules cluster actions)) : s.trigger.tends = true := by
  obtain ⟨n, stage, hactivity, hfits⟩ := activity?_of_mem_history hs
  refine stage.tends_of_fits ?_ hfits
  rcases htending with hwatch | ⟨a₀, hstart, htends⟩
  · have hwatches : (Activity.calling s.cell stage s.purpose).Watches :=
      activity_play (fun x hx => by cases x <;> trivial) (fun _ _ h => h.watches) hactivity hw
    exact hwatches hwatch
  · obtain ⟨first, hfirst, hcourse⟩ := exists_course hactivity hw
    -- the task was started before the dialogue step
    have hsame : first = a₀ := Option.some.inj ((starters_of_take hfirst).symm.trans hstart)
    rw [hsame] at hcourse
    have hcalling := tends_of_courses hcourse htends.tends
    exact hcalling.2.2

/-- A task that tends a container comes to a result when it is dropped, or by what it says. -/
lemma result_of_tends {w' : World σ} {a : Action σ} {s : Option DialogueStep}
    (h : Change rules cluster w a s w') {c : CellId} {t : TaskId} {x : Activity} {r : TaskResult}
    (hx : w.activity? t = some x) (hr : w'.activity? t = some (.finished r))
    (htends : x.Tends c) :
    x = .finished r ∨ r = .ok .nothing ∨ ∃ s', s = some s' ∧ s'.cell = c ∧ s'.task = t ∧
      ∃ reply, s'.reply? = some reply ∧ r = callResult reply := by
  cases x with
  | fresh request =>
    cases request with
    | call c' e =>
      rcases opening_of_change h hx hr with hsame | hnothing | ⟨b, ho, -⟩
      · cases hsame
      · exact .inr (.inl (Activity.finished.inj hnothing))
      · -- a call on a container is never refused
        cases ho with
        | refused request e' hnot => exact absurd rfl (hnot c' e)
    | _ => cases htends
  | calling c' stage p =>
    obtain ⟨rfl, rfl, -⟩ := htends
    rcases result_of_change h hx hr with hnothing | ⟨s', hs, hc, ht, -, hreply⟩
    · exact .inr (.inl hnothing)
    · exact .inr (.inr ⟨s', hs, hc, ht, hreply⟩)
  | finished r' =>
    -- a task that has ended does nothing else
    cases progress_of_change h hx hr with
    | idle => exact .inl rfl
    | dropped w' x hnot => exact absurd rfl (hnot r')
    | moved w' x x' hm => cases hm
  | _ => cases htends

/-- A task that was started to tend a container and has a result was dropped, or has said what
the result is. -/
lemma result_of_startsTending (hw : w.tasks = []) {c : CellId} {actions : List (Action σ)}
    {t : TaskId} {a₀ : Activity} {r : TaskResult}
    (hstart : (w.starters rules cluster actions)[t]? = some a₀) (htends : a₀.StartsTending c)
    (hr : (w.play rules cluster actions).activity? t = some (.finished r)) :
    r = .ok .nothing ∨ ∃ s ∈ about c (w.history rules cluster actions), s.task = t ∧
      ∃ reply, s.reply? = some reply ∧ r = callResult reply := by
  induction actions using List.reverseRecOn with
  | nil => cases (activity?_eq_none hw t).symm.trans hr
  | append_singleton actions a ih =>
    have hchange := act_change rules cluster (w.play rules cluster actions) a
    rw [history_concat, about_append]
    cases hx : (w.play rules cluster actions).activity? t with
    | none =>
      rw [starters_concat_of_none hx hw, hr] at hstart
      cases hstart
      rcases htends with h | h <;> cases h
    | some x =>
      rw [starters_concat_of_some hx hw] at hstart
      rw [play_concat] at hr
      obtain ⟨first, hfirst, hcourse⟩ := exists_course hx hw
      cases hfirst.symm.trans hstart
      rcases result_of_tends hchange hx hr (tends_of_courses hcourse htends.tends) with
        rfl | hnothing | ⟨s, hs, rfl, ht, hreply⟩
      · rcases ih hstart hx with hnothing | ⟨s, hs, hrest⟩
        · exact .inl hnothing
        · exact .inr ⟨s, List.mem_append_left _ hs, hrest⟩
      · exact .inl hnothing
      · refine .inr ⟨s, List.mem_append_right _ ?_, ht, hreply⟩
        rw [hs, Option.toList_some, about_singleton]
        exact List.mem_singleton_self s

/-- The news that the attempts are used up are told once at most. -/
lemma Attentive.countP_exhausts_le (hatt : w.Attentive rules.policy) (cluster : Cluster σ)
    (c : CellId) (actions : List (Action σ)) :
    (about c (w.history rules cluster actions)).countP (·.exhausts) ≤ 1 := by
  induction actions generalizing w with
  | nil => exact Nat.zero_le 1
  | cons a rest ih =>
    have hchange := act_change rules cluster w a
    have hatt' := hatt.change hchange
    rw [history, about_append, List.countP_append]
    by_cases hx : ∃ s, w.dialogueStepOf? rules cluster a = some s ∧ s.cell = c ∧ s.exhausts = true
    · obtain ⟨s, hs, rfl, hx⟩ := hx
      rw [hs] at hchange ⊢
      -- the container has failed, and all that is said afterwards shows it
      have hfailed := (DialogueStep.of_exhausts (hatt.exchange hchange) hx).2.1
      have hend : s.after.state.isTerminal = true := by
        rw [hfailed]
        rfl
      have hquiet := (hatt'.quiet_of_isTerminal cluster (container?_of_dialogueStep hchange).2 hend
        rest).2
      have hzero : (about s.cell ((w.act rules cluster a).history rules cluster rest)).countP
          (·.exhausts) = 0 :=
        List.countP_eq_zero.2 fun s' hs' => by simp [(hquiet s' hs').1.exhausts_eq_false]
      refine Nat.le_of_eq ?_
      rw [hzero, Option.toList_some, about_singleton, List.countP_singleton, if_pos hx]
    · have hzero :
          (about c (w.dialogueStepOf? rules cluster a).toList).countP (·.exhausts) = 0 := by
        refine List.countP_eq_zero.2 fun s hs hs' => hx ⟨s, ?_⟩
        obtain ⟨hmem, hcell⟩ := List.mem_filter.1 hs
        exact ⟨Option.mem_toList.1 hmem, of_decide_eq_true hcell, hs'⟩
      rw [hzero, Nat.zero_add]
      exact ih hatt'

/-- In every run, whatever the owners of containers did with them before, whatever tasks call on
them, and wherever a task is dropped: the calls that tend a container come to a good end. -/
theorem tendedWell_run (rules : Rules) (cluster : Cluster σ) (state : σ)
    (bus : EventBus ContainerEvent) (owned : List Possession) (actions : List (Action σ))
    (c : CellId) :
    TendedWell rules cluster (holding state bus (owned.map (·.container))) owned actions c := by
  have hatt := attentive_holding rules.policy state bus (owned.map (·.container))
  have hexchange : ∀ s ∈ (holding state bus (owned.map (·.container))).history rules cluster
      actions, Exchange rules.policy s.before s.trigger s.dialogue := fun s hs =>
    exchange_of_mem_history hatt hs
  refine ⟨?_, ?_, hatt.countP_exhausts_le cluster c actions, ?_⟩
  · intro s hs htending reply hreply
    have hmem := (List.mem_filter.1 hs).1
    exact s.reply_of_tends (hexchange s hmem) (tends_of_mem_history rfl hmem htending) hreply
  · intro t a r hstart htends hr
    exact result_of_startsTending rfl hstart htends (result?_eq hr)
  · rintro earlier s later hhistory rfl hx
    have hmem : s ∈ earlier ++ s :: later := by simp
    rw [← hhistory] at hmem
    obtain ⟨hactive, hfailed, hleft⟩ := s.of_exhausts (hexchange s hmem) hx
    obtain ⟨first, hrecorded⟩ := recorded_of_history hhistory
    refine ⟨?_, hfailed, ?_⟩
    · rcases hactive with hs | hs <;> rw [hs] <;> rfl
    · have hle : rules.policy.maxAttempts.toNat ≤ s.before.recoveryAttempts.toNat :=
        UInt16.le_iff_toNat_le.1 (of_decide_eq_true hleft)
      have hcount := hrecorded.toNat_recoveryAttempts
      omega

/-- With one attempt allowed, a task that recovers a container starts it, and is then told that
the attempts are used up. -/
example :
    let w := holding () ⟨8, 0, [], [], 0⟩ [.restore (.bare ⟨"a"⟩) ⟨"r"⟩]
    let rules : Rules := ⟨.immediate 1, .standard⟩
    let actions : List (Action Unit) := .request (.call 0 .recover) :: List.replicate 6 (.step 0)
    (w.history rules .oblivious actions).map (fun s => (s.attempts, s.exhausts)) =
      [(0, false), (1, false), (0, false), (0, false), (0, true)] := by
  decide

end World

end Supervision

end JobSupervision
