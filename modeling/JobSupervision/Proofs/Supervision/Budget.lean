/-
# The budget of recovery attempts

A policy bounds how many recovery attempts are started since a container last ran.  Whether an
attempt is left is weighed under the lock, but the attempt itself starts under a later lock,
after a wait, and a poll of a recovering container starts one without weighing.  The budget is
kept exactly if no attempt starts late, when none is left any longer, and a late attempt that was
weighed is one that another task got ahead of (`overtaken_of_isLate`).
-/
import JobSupervision.Proofs.Supervision.Attempts
import JobSupervision.Proofs.Supervision.Course

namespace JobSupervision

namespace Supervision

/-- How many recovery attempts were started since a container last ran. -/
def attemptsSinceRunning (said : List DialogueStep) : Nat :=
  said.foldl (fun n s => if s.after.state = .running then 0 else n + s.attempts) 0

/-- Whether an attempt starts though none is left. -/
def DialogueStep.IsLate (policy : RetryPolicy) (s : DialogueStep) : Prop :=
  policy.exhausted s.before.recoveryAttempts = true ∧
    ∃ e, s.trigger = .operation e ∧ e.Attempts s.before

/-- Whether a dialogue step hands the error of a submission on to the caller. -/
def DialogueStep.refuses (s : DialogueStep) : Bool :=
  match s.trigger with
  | .answer (.submit _) (.error _) => true
  | _ => false

/-- The budget of a container, with what was said about it: neither the counter nor the number
of attempts since it last ran passes the bound, and whoever is told that the attempts are used
up is told the bound. -/
structure BudgetKept (policy : RetryPolicy) (said : List DialogueStep) (now : Option Container) :
    Prop where
  /-- The counter is within the bound. -/
  counter : ∀ k, now = some k → k.recoveryAttempts ≤ policy.maxAttempts
  /-- The attempts are within the bound. -/
  attempts : attemptsSinceRunning said ≤ policy.maxAttempts.toNat
  /-- The errors tell the bound. -/
  errors : ∀ s ∈ said, s.refuses = false → ∀ j r n,
    s.reply? = some (.error (.recoveryExhausted j r n)) → n = policy.maxAttempts

variable {policy : RetryPolicy}

/-! ### Dialogue steps -/

lemma attemptsSinceRunning_concat (said : List DialogueStep) (s : DialogueStep) :
    attemptsSinceRunning (said ++ [s]) =
      if s.after.state = .running then 0 else attemptsSinceRunning said + s.attempts := by
  simp [attemptsSinceRunning]

/-- A dialogue step starts an attempt and counts it, or it leaves the counter alone, unless it
clears the counter of a container that runs again. -/
lemma DialogueStep.attempts_cases {s : DialogueStep}
    (h : Exchange policy s.before s.trigger s.dialogue) :
    ((∃ e, s.trigger = .operation e ∧ e.Attempts s.before) ∧ s.attempts = 1 ∧
      s.after.state = .recovering ∧
      s.after.recoveryAttempts = RetryPolicy.nextAttempt s.before.recoveryAttempts) ∨
    s.attempts = 0 ∧
      (s.after.recoveryAttempts = s.before.recoveryAttempts ∨
        s.after.state = .running ∧ s.after.recoveryAttempts = 0) :=
  h.attempts_cases

/-- An operation that is to start an attempt starts one. -/
lemma DialogueStep.attempts_of_attempts {s : DialogueStep}
    (h : Exchange policy s.before s.trigger s.dialogue) {e : GuardedOperation}
    (htrigger : s.trigger = .operation e)
    (he : e.Attempts s.before) : s.attempts = 1 ∧ s.after.state = .recovering := by
  rcases s.attempts_cases h with ⟨-, hone, hrec, -⟩ | ⟨hzero, -⟩
  · exact ⟨hone, hrec⟩
  -- no other dialogue step begins with such an operation
  · exfalso
    obtain ⟨task, purpose, cell, before, trigger, dialogue⟩ := s
    dsimp only at h htrigger he
    subst htrigger
    cases h with
    | leave e hleaves =>
      cases e with
      | poll => exact hleaves.2 he
      | attempt attempted => exact Bool.noConfusion (Eq.trans (Eq.symm hleaves) he)
      | _ => exact he
    | askStatus h => exact ContainerState.noConfusion (h.symm.trans he)
    | lost h => exact ContainerState.noConfusion (h.symm.trans he)
    | attemptKnown =>
      by_cases hr : before.state = .running <;>
        simp [attempts, Dialogue.events, Container.attemptEvents, hr] at hzero
    | attemptUnknown =>
      by_cases hr : before.state = .running <;>
        simp [attempts, Dialogue.events, Container.attemptEvents, hr] at hzero
    | _ => exact he

lemma not_exhausted_zero {n : UInt16} (h : policy.exhausted n = false) :
    policy.exhausted 0 = false := by
  have hlt : ¬ policy.maxAttempts ≤ n := of_decide_eq_false h
  refine decide_eq_false fun hle => hlt ?_
  exact UInt16.le_trans hle (UInt16.zero_le)

/-- A caller that is told that the attempts are used up is told how many there were. -/
lemma DialogueStep.exhausted_of_reply? {s : DialogueStep}
    (h : Exchange policy s.before s.trigger s.dialogue)
    (hr : s.refuses = false) {j : JobId} {r : Option RunId} {n : UInt16}
    (hs : s.reply? = some (.error (.recoveryExhausted j r n))) :
    n = s.before.recoveryAttempts ∧ policy.exhausted n = true := by
  obtain ⟨task, purpose, cell, before, trigger, dialogue⟩ := s
  dsimp only at h
  cases h with
  | escalated attempted hn hx =>
    cases hs
    exact ⟨rfl, hx⟩
  | rejected => cases hr
  | _ => cases hs

/-! ### The life of a container -/

lemma attemptsSinceRunning_eq (said : List DialogueStep) :
    attemptsSinceRunning said = attemptsIn (said.map DialogueStep.passage) := by
  rw [attemptsIn, List.foldl_map]
  rfl

/-- The counter counts the attempts since the container last ran, as far as it goes. -/
lemma Life.toNat_recoveryAttempts {first k : Container} {said : List DialogueStep}
    (h : Life policy first said k) :
    k.recoveryAttempts.toNat = min (attemptsSinceRunning said) 65535 := by
  rw [attemptsSinceRunning_eq]
  exact h.recorded.toNat_recoveryAttempts

/-- A late attempt passes the bound. -/
lemma Life.lt_of_isLate {first : Container} {said : List DialogueStep} {s : DialogueStep}
    (h : Life policy first said s.before) (hs : Exchange policy s.before s.trigger s.dialogue)
    (hlate : s.IsLate policy) :
    policy.maxAttempts.toNat < attemptsSinceRunning (said ++ [s]) := by
  obtain ⟨hx, e, htrigger, he⟩ := hlate
  obtain ⟨hone, hrec⟩ := s.attempts_of_attempts hs htrigger he
  have hcount := h.toNat_recoveryAttempts
  have hle : policy.maxAttempts.toNat ≤ s.before.recoveryAttempts.toNat :=
    UInt16.le_iff_toNat_le.1 (of_decide_eq_true hx)
  rw [attemptsSinceRunning_concat, if_neg (by rw [hrec]; decide), hone]
  omega

/-- Without a late attempt the budget is kept. -/
lemma Life.budgetKept {first k : Container} {said : List DialogueStep}
    (h : Life policy first said k) (hlate : ∀ s ∈ said, ¬ s.IsLate policy) :
    BudgetKept policy said (some k) := by
  -- the counter follows from the number of attempts
  have hcounter : ∀ {said k}, Life policy first said k →
      attemptsSinceRunning said ≤ policy.maxAttempts.toNat →
      k.recoveryAttempts ≤ policy.maxAttempts := by
    intro said k hlife hle
    rw [UInt16.le_iff_toNat_le, hlife.toNat_recoveryAttempts]
    omega
  suffices hkept : attemptsSinceRunning said ≤ policy.maxAttempts.toNat ∧
      ∀ s ∈ said, s.refuses = false → ∀ j r n,
        s.reply? = some (.error (.recoveryExhausted j r n)) → n = policy.maxAttempts by
    refine ⟨fun k' hk' => ?_, hkept.1, hkept.2⟩
    cases hk'
    exact hcounter h hkept.1
  induction h with
  | start => exact ⟨Nat.zero_le _, fun s hs => by cases hs⟩
  | @dialogueStep said s h hs ih =>
    obtain ⟨hle, herrors⟩ := ih fun s' hs' => hlate s' (List.mem_append_left _ hs')
    have hnot := hlate s (List.mem_append_right _ (List.mem_singleton_self s))
    have hbefore := hcounter h hle
    refine ⟨?_, fun s' hs' href j r n hreply => ?_⟩
    · rw [attemptsSinceRunning_concat]
      split
      · exact Nat.zero_le _
      · rcases s.attempts_cases hs with ⟨htrigger, hone, -, -⟩ | ⟨hzero, -⟩
        · have hlt : ¬ policy.maxAttempts.toNat ≤ s.before.recoveryAttempts.toNat := fun hx =>
            hnot ⟨decide_eq_true (UInt16.le_iff_toNat_le.2 hx), htrigger⟩
          have hcount := h.toNat_recoveryAttempts
          have hbound := policy.maxAttempts.toNat_lt
          rw [hone]
          omega
        · rw [hzero]
          exact hle
    · rcases List.mem_append.1 hs' with hs' | hs'
      · exact herrors s' hs' href j r n hreply
      · rw [List.mem_singleton.1 hs'] at href hreply
        obtain ⟨rfl, hx⟩ := s.exhausted_of_reply? hs href hreply
        exact UInt16.le_antisymm hbefore (of_decide_eq_true hx)

namespace World

variable {σ : Type}

/-- In every run, whatever tasks there are and wherever they are dropped, the budget of a
container is kept all the time exactly if no attempt starts late. -/
theorem budgetKept_iff (rules : Rules) (cluster : Cluster σ) (state : σ)
    (bus : EventBus ContainerEvent) (actions : List (Action σ)) (c : CellId) :
    let w := empty state bus
    (∀ n, BudgetKept rules.policy (about c (w.history rules cluster (actions.take n)))
      ((w.play rules cluster (actions.take n)).container? c)) ↔
    ∀ s ∈ about c (w.history rules cluster actions), ¬ s.IsLate rules.policy := by
  intro w
  constructor
  · intro hkept s hs hlate
    obtain ⟨hmem, hcell⟩ := List.mem_filter.1 hs
    obtain rfl := of_decide_eq_true hcell
    obtain ⟨n, a, ha, hdialogue⟩ := exists_of_mem_history hmem
    have hchange := act_change rules cluster (w.play rules cluster (actions.take n)) a
    rw [hdialogue] at hchange
    have hatt := attentive_run rules cluster state bus (actions.take n)
    obtain ⟨first, -, hlife⟩ := life_of_container? (container?_of_dialogueStep hchange).1
    have hlt := hlife.lt_of_isLate (hatt.exchange hchange) hlate
    -- the late attempt is the last one in the run up to there
    have hle := (hkept (n + 1)).attempts
    rw [List.take_add_one, ha, Option.toList_some, history_concat, about_append, hdialogue,
      Option.toList_some, about_singleton] at hle
    exact absurd hle (Nat.not_le_of_lt hlt)
  · intro hlate n
    have hsub : ∀ s ∈ about c (w.history rules cluster (actions.take n)),
        ¬ s.IsLate rules.policy := by
      intro s hs
      refine hlate s ?_
      rw [← List.take_append_drop n actions, history_append, about_append]
      exact List.mem_append_left _ hs
    cases hk : (w.play rules cluster (actions.take n)).container? c with
    | some k =>
      obtain ⟨first, -, hlife⟩ := life_of_container? hk
      exact hlife.budgetKept hsub
    | none =>
      have hnil : about c (w.history rules cluster (actions.take n)) = [] := by
        refine (life_play rules cluster state bus (actions.take n) c).1 (Nat.le_of_not_lt ?_)
        intro hlt
        obtain ⟨k, hk'⟩ := exists_container? hlt
        cases hk.symm.trans hk'
      rw [hnil]
      exact ⟨fun k hk => (by cases hk), Nat.zero_le _, fun s hs => by cases hs⟩

/-- Two tasks recover one container, and both weigh before one of them makes its attempt. -/
def crossedRecoveries : List (Action Unit) :=
  [.share (.bare ⟨"a"⟩) (some ⟨"r"⟩),
    .request (.call 0 .recover), .request (.call 0 .recover),
    .step 0, .step 0, .step 1, .step 1, .pass 100,
    .step 0, .step 0, .step 0, .step 0, .step 1, .step 1]

/-- With one attempt allowed, the two tasks start two. -/
theorem not_budgetKept_crossedRecoveries :
    let w := empty () ⟨8, 0, [], [], 0⟩
    let rules : Rules := ⟨⟨1, 100, 100⟩, .standard⟩
    ¬ ∀ n, BudgetKept rules.policy
      (about 0 (w.history rules .oblivious (crossedRecoveries.take n)))
      ((w.play rules .oblivious (crossedRecoveries.take n)).container? 0) := by
  intro w rules h
  have htwo : attemptsSinceRunning (about 0
      (w.history rules .oblivious (crossedRecoveries.take 14))) = 2 := by
    decide
  have hle := (h 14).attempts
  rw [htwo] at hle
  exact absurd hle (by decide)

end World

/-! ### Where late attempts come from -/

/-- Whether a task that was not begun does what may be asked for. -/
def Activity.isOffered : Activity → Bool
  | .fresh request => request.isOffered
  | _ => true

/-- Whether a task has weighed that an attempt is left for a container, and is to make it. -/
def Activity.WillAttempt (c : CellId) (attempted : Bool) (a : Activity) : Prop :=
  ∃ stage p, a = .calling c stage p ∧ stage.operation? = some (.attempt attempted)

variable {σ : Type} {rules : Rules} {cluster : Cluster σ} {w w' : World σ}

lemma Course.isOffered {a a' : Activity} (h : Course σ rules a a') : a'.isOffered = true := by
  cases h with
  | begun w request b a ho => cases ho <;> rfl
  | moved w a a' hm => cases hm <;> rfl
  | replied w c stage p k trigger htrigger k' events reply =>
    rcases World.sequel_cases rules w c p reply with ⟨r, hr⟩ | hr | ⟨due, hr⟩ <;> rw [hr] <;> rfl
  | _ => rfl

lemma Opening.not_willAttempt {request : Request} {b : Bookkeeping} {a : Activity}
    (h : Opening rules w request b a) (hrequest : request.isOffered = true) (c : CellId)
    (attempted : Bool) : ¬ a.WillAttempt c attempted := by
  rintro ⟨stage, p, rfl, hstage⟩
  cases h with
  | call c e =>
    cases hstage
    cases hrequest
  | _ => cases hstage

lemma Moving.willAttempt {a a' : Activity} (h : Moving rules w a a') {c : CellId}
    {attempted : Bool} (hwill : a'.WillAttempt c attempted) : a.WillAttempt c attempted := by
  obtain ⟨stage, p, rfl, hstage⟩ := hwill
  cases h with
  | comeBack c e due p => exact ⟨.resting e due, p, rfl, hstage⟩
  | _ => cases hstage

namespace World

/-- A task comes to an attempt by what it says itself. -/
lemma willAttempt_of_change {a : Action σ} {s : Option DialogueStep}
    (h : Change rules cluster w a s w') {t : TaskId} {x x' : Activity}
    (hx : w.activity? t = some x) (hx' : w'.activity? t = some x')
    (hoffered : x.isOffered = true) {c : CellId} {attempted : Bool}
    (hwill : x'.WillAttempt c attempted) :
    (x.WillAttempt c attempted ∧ ∀ s', s = some s' → s'.task ≠ t) ∨
      ∃ s' k events delay, s = some s' ∧ s'.task = t ∧ s'.cell = c ∧
        s'.dialogue = .done ⟨k, events, .again delay (.attempt attempted)⟩ := by
  cases progress_of_change h hx hx' with
  | idle s w' x hs => exact .inl ⟨hwill, hs⟩
  | dropped =>
    obtain ⟨stage, p, he, -⟩ := hwill
    cases he
  | begun request b x' ho => exact absurd hwill (ho.not_willAttempt hoffered c attempted)
  | moved w' x x' hm => exact .inl ⟨hm.willAttempt hwill, fun s' hs' => by cases hs'⟩
  | queued w' c' e p =>
    obtain ⟨stage, p', he, hstage⟩ := hwill
    cases he
    exact .inl ⟨⟨_, _, rfl, hstage⟩, fun s' hs' => by cases hs'⟩
  | asked s ht w' stage htrigger k events q next hd due =>
    obtain ⟨stage', p, he, hstage⟩ := hwill
    cases he
    cases hstage
  | replied s ht w' stage htrigger k events reply hd =>
    obtain ⟨stage', p, he, hstage⟩ := hwill
    rcases sequel_cases rules w s.cell s.purpose reply with ⟨r, hr⟩ | hr | ⟨due, hr⟩
    · cases hr.symm.trans he
    · cases hr.symm.trans he
      cases hstage
    · cases hr.symm.trans he
  | putOff s ht w' stage htrigger k events delay e hd stage' hst =>
    obtain ⟨stage'', p, he, hstage⟩ := hwill
    cases he
    have he : e = .attempt attempted := by
      rcases hst with rfl | ⟨due, rfl⟩ <;> exact Option.some.inj hstage
    subst he
    exact .inr ⟨s, k, events, delay, rfl, ht, rfl, hd⟩

/-- The counter of a container stays, is cleared, or counts an attempt that is started. -/
lemma recoveryAttempts_of_change (hatt : w.Attentive rules.policy) {a : Action σ}
    {s : Option DialogueStep} (h : Change rules cluster w a s w') {c : CellId} {k k' : Container}
    (hk : w.container? c = some k) (hk' : w'.container? c = some k') :
    k'.recoveryAttempts = k.recoveryAttempts ∨ k'.recoveryAttempts = 0 ∨
      ∃ s', s = some s' ∧ s'.cell = c ∧ s'.attempts = 1 := by
  by_cases hsaid : ∃ s', s = some s' ∧ s'.cell = c
  · obtain ⟨s', rfl, rfl⟩ := hsaid
    obtain ⟨hbefore, hafter⟩ := container?_of_dialogueStep h
    cases hk.symm.trans hbefore
    cases hk'.symm.trans hafter
    rcases s'.attempts_cases (hatt.exchange h) with
      ⟨-, hone, -, -⟩ | ⟨-, hsame | ⟨-, hzero⟩⟩
    · exact .inr (.inr ⟨s', rfl, rfl, hone⟩)
    · exact .inl hsame
    · exact .inr (.inl hzero)
  · rw [container?_of_ne h (lt_of_container? hk) fun s' he hc => hsaid ⟨s', he, hc⟩, hk] at hk'
    cases hk'
    exact .inl rfl

/-- A task that is to make an attempt has weighed that one is left, and one is left still unless
another task has started one since then. -/
lemma weighed_of_willAttempt {state : σ} {bus : EventBus ContainerEvent}
    {actions : List (Action σ)} {t : TaskId} {x : Activity} {c : CellId} {attempted : Bool}
    (hx : ((empty state bus).play rules cluster actions).activity? t = some x)
    (hwill : x.WillAttempt c attempted) :
    ∃ earlier weighing since,
      about c ((empty state bus).history rules cluster actions) = earlier ++ weighing :: since ∧
      weighing.task = t ∧ weighing.trigger = .operation (.weigh attempted) ∧
      rules.policy.exhausted weighing.before.recoveryAttempts = false ∧
      ∀ k, ((empty state bus).play rules cluster actions).container? c = some k →
        rules.policy.exhausted k.recoveryAttempts = false ∨
          ∃ s ∈ since, s.task ≠ t ∧ s.attempts = 1 := by
  induction actions using List.reverseRecOn generalizing x with
  | nil => simp [activity?, task?, empty] at hx
  | append_singleton actions a ih =>
    have hatt := attentive_run rules cluster state bus actions
    have hchange := act_change rules cluster ((empty state bus).play rules cluster actions) a
    rw [play_concat] at hx
    rw [history_concat, about_append, play_concat]
    generalize hs :
      ((empty state bus).play rules cluster actions).dialogueStepOf? rules cluster a = s
    rw [hs] at hchange
    cases hx₀ : ((empty state bus).play rules cluster actions).activity? t with
    | none =>
      obtain ⟨stage, p, rfl, -⟩ := hwill
      cases isStart_of_change hchange hx hx₀
    | some x₀ =>
      have hoffered := activity_play (P := fun x => x.isOffered = true)
        (fun x h => by cases x <;> first | exact h | rfl) (fun _ _ h _ => h.isOffered) hx₀ rfl
      rcases willAttempt_of_change hchange hx₀ hx hoffered hwill with
        ⟨hwill₀, hother⟩ | ⟨s, k, events, delay, rfl, rfl, rfl, hd⟩
      · obtain ⟨earlier, weighing, since, habout, htask, htrigger, hleft, hnow⟩ := ih hx₀ hwill₀
        refine ⟨earlier, weighing, since ++ about c s.toList, ?_, htask, htrigger, hleft, ?_⟩
        · rw [habout, List.append_assoc, List.cons_append]
        intro k' hk'
        -- something was said about the container before, so that it was there
        obtain ⟨k, hk⟩ := exists_container? (w := (empty state bus).play rules cluster actions)
          (c := c) (Nat.lt_of_not_le fun hle => by
            have hnil := (life_play rules cluster state bus actions c).1 hle
            rw [habout] at hnil
            simp at hnil)
        rcases recoveryAttempts_of_change hatt hchange hk hk' with
          hsame | hzero | ⟨s', rfl, rfl, hone⟩
        · rw [hsame]
          rcases hnow k hk with hleft' | ⟨s', hs', hrest⟩
          · exact .inl hleft'
          · exact .inr ⟨s', List.mem_append_left _ hs', hrest⟩
        · rw [hzero]
          exact .inl (not_exhausted_zero hleft)
        · refine .inr ⟨s', List.mem_append_right _ ?_, hother s' rfl, hone⟩
          rw [Option.toList_some, about_singleton]
          exact List.mem_singleton_self s'
      · -- the task has just weighed
        have hexchange := hatt.exchange hchange
        rw [hd] at hexchange
        have hafter := (container?_of_dialogueStep hchange).2
        rw [DialogueStep.after, hd] at hafter
        refine ⟨about s.cell ((empty state bus).history rules cluster actions), s, [], ?_, rfl, ?_⟩
        · rw [Option.toList_some, about_singleton]
        generalize htrigger : s.trigger = trigger at hexchange
        generalize hbefore : s.before = before at hexchange
        cases hexchange with
        | rest attempted hneeded hleft =>
          refine ⟨rfl, hleft, fun k hk => ?_⟩
          cases hk.symm.trans hafter
          exact .inl hleft

/-- A late attempt was started by a poll, or it was weighed before another task started the last
attempt that was left. -/
theorem overtaken_of_isLate {state : σ} {bus : EventBus ContainerEvent}
    {actions : List (Action σ)} {a : Action σ} {s : DialogueStep}
    (hs : ((empty state bus).play rules cluster actions).dialogueStepOf? rules cluster a = some s)
    (hlate : s.IsLate rules.policy) :
    s.trigger = .operation .poll ∨ ∃ earlier weighing since,
      about s.cell ((empty state bus).history rules cluster actions) =
        earlier ++ weighing :: since ∧
      weighing.task = s.task ∧ (∃ attempted, weighing.trigger = .operation (.weigh attempted)) ∧
      rules.policy.exhausted weighing.before.recoveryAttempts = false ∧
      ∃ s' ∈ since, s'.task ≠ s.task ∧ s'.attempts = 1 := by
  obtain ⟨hx, e, htrigger, he⟩ := hlate
  have hchange := act_change rules cluster ((empty state bus).play rules cluster actions) a
  rw [hs] at hchange
  obtain ⟨stage, hactivity, hfits⟩ := activity?_of_dialogueStep hchange
  rw [htrigger] at hfits
  cases e with
  | poll => exact .inl htrigger
  | attempt attempted =>
    have hoperation : stage.operation? = some (.attempt attempted) :=
      CallStage.operation?_of_fits hfits
    obtain ⟨earlier, weighing, since, habout, htask, hweigh, hleft, hnow⟩ :=
      weighed_of_willAttempt hactivity ⟨stage, s.purpose, rfl, hoperation⟩
    refine .inr ⟨earlier, weighing, since, habout, htask, ⟨attempted, hweigh⟩, hleft, ?_⟩
    rcases hnow s.before (container?_of_dialogueStep hchange).1 with hleft' | hsince
    · rw [hx] at hleft'
      cases hleft'
    · exact hsince
  | _ => exact he.elim

end World

end Supervision

end JobSupervision
