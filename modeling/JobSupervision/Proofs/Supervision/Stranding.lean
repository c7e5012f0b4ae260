/-
# Stranded jobs

A task that submits a job waits for the answer with the lock of the container.  If it is dropped
meanwhile, nobody takes the answer, and the container is being submitted for good: whatever is
said about it changes nothing and asks nothing, and no release that looks at it forgets its job
(`Attentive.stranded_play`).  There is no other way to strand a job (`stranded_iff`).
-/
import JobSupervision.Proofs.Supervision.Release
import JobSupervision.Proofs.Supervision.Tending

namespace JobSupervision

/-! ### Dialogue steps about a container that is being submitted -/

section Exchanges

variable {policy : RetryPolicy} {c : Container} {trigger : Trigger} {d : Dialogue Turn}

lemma Container.not_active_of_submitting (hs : c.state = .submitting) : ¬ c.Active := by
  rintro (h | h) <;> cases hs.symm.trans h

/-- What is said about a container that is being submitted takes the answer to the submission, or
it changes nothing, tells nothing and asks nothing. -/
lemma Exchange.of_submitting (h : Exchange policy c trigger d) (hs : c.state = .submitting) :
    (∃ i a, trigger = .answer (.submit i) a) ∨
      d.container = c ∧ d.events = [] ∧ d.query? = none := by
  have hidle := Container.not_active_of_submitting hs
  cases h with
  | leave | showState | notStoppable | rest => exact .inr ⟨rfl, rfl, rfl⟩
  | accepted | rejected => exact .inl ⟨_, _, rfl⟩
  | attemptKnown e he | attemptUnknown e he => exact absurd he.active hidle
  | askStop h | stopNothing h | stopped h | notStopped h => exact absurd h hidle
  | escalated attempted hn => exact absurd (GuardedOperation.active_of_needed hn) hidle
  | submit h | askStatus h | lost h | stillRunning h | ended h | enterRecovery h =>
    cases hs.symm.trans h
  | recovered h | foundEnded h | search h | giveUp h | sameRun h | adopt h | noRun h | noSearch h =>
    cases hs.symm.trans h

/-- A container that is being submitted after a dialogue step was so before, or is submitted by it.
-/
lemma Exchange.submitting_after (h : Exchange policy c trigger d)
    (hs : d.container.state = .submitting) :
    (∃ i, d.query? = some (.submit i)) ∨ c.state = .submitting := by
  cases h with
  | submit => exact .inl ⟨_, rfl⟩
  | accepted | rejected | lost | enterRecovery | recovered => cases hs
  | attemptKnown | attemptUnknown | stopNothing | stopped | escalated => cases hs
  | ended h r status s hfinal | foundEnded h r status s hfinal =>
    obtain rfl : s = .submitting := hs
    cases RemoteStatus.isTerminal_final hfinal
  | _ => exact .inr hs

lemma Exchange.of_submission (h : Exchange policy c trigger d) {i : JobIdentity}
    {a : Except ContainerError RunId} (htrigger : trigger = .answer (.submit i) a) :
    c.state = .submitting ∧ d.container.state ≠ .submitting := by
  cases h with
  | accepted h | rejected h => exact ⟨h, nofun⟩
  | _ => cases htrigger

end Exchanges

namespace Supervision

variable {σ : Type} {rules : Rules} {cluster : Cluster σ} {w w' : World σ}

/-- Whether a task waits for the answer to the submission of a job. -/
def Activity.Submits (c : CellId) (a : Activity) : Prop := ∃ i next, a.Asks c (.submit i) next

namespace World

/-- Whether a task of a world waits for the answer to the submission of a job. -/
def Submits (w : World σ) (t : TaskId) (c : CellId) : Prop :=
  ∃ a, w.activity? t = some a ∧ a.Submits c

/-- Whether the job of a container is being submitted though nobody waits for the answer. -/
def Stranded (w : World σ) (c : CellId) : Prop :=
  (∃ k, w.container? c = some k ∧ k.state = .submitting) ∧ ∀ t, ¬ w.Submits t c

/-! ### Tasks that submit -/

/-- A task that submits a job has the lock of the container, which is being submitted. -/
lemma Attentive.of_submits {policy : RetryPolicy} (hatt : w.Attentive policy) {t : TaskId}
    {c : CellId} (h : w.Submits t c) :
    ∃ cell, w.cell? c = some cell ∧ cell.holder = some t ∧
      cell.container.state = .submitting := by
  obtain ⟨a, ha, i, next, hasks⟩ := h
  obtain ⟨cell, hc, hl, halways⟩ := hatt t c (.submit i) next a ha hasks
  exact ⟨cell, hc, hl, ((halways (.ok ⟨""⟩)).head.of_submission rfl).1⟩

/-- Only one task submits a job. -/
lemma Attentive.eq_of_submits {policy : RetryPolicy} (hatt : w.Attentive policy)
    {t i : TaskId} {c : CellId} (ht : w.Submits t c) (hi : w.Submits i c) : i = t := by
  obtain ⟨cell, hc, hl, -⟩ := hatt.of_submits ht
  obtain ⟨cell', hc', hl', -⟩ := hatt.of_submits hi
  cases hc.symm.trans hc'
  exact Option.some.inj (hl'.symm.trans hl)

/-- A task that comes to submit a job has just asked for that. -/
lemma submits_of_change {a : Action σ} {s : Option DialogueStep}
    (h : Change rules cluster w a s w') {t : TaskId} {c : CellId} (ht : w'.Submits t c) :
    w.Submits t c ∨
      ∃ s', s = some s' ∧ s'.cell = c ∧ ∃ i, s'.query? = some (.submit i) := by
  obtain ⟨x', hx', i, next, hasks⟩ := ht
  cases hx : w.activity? t with
  | none =>
    obtain ⟨due, p, rfl⟩ := hasks
    cases isStart_of_change h hx' hx
  | some x =>
    cases progress_of_change h hx hx' with
    | idle => exact .inl ⟨_, hx, i, next, hasks⟩
    | begun request b x' ho => exact absurd hasks (ho.not_asks c _ next)
    | moved w' x x' hm => exact absurd hasks (hm.not_asks c _ next)
    | asked s' ht w' stage htrigger k events q next' hd =>
      obtain ⟨due, p, he⟩ := hasks
      obtain ⟨hc, hstage, -⟩ := Activity.calling.inj he
      obtain ⟨rfl, -⟩ := CallStage.asking.inj hstage
      refine .inr ⟨s', rfl, hc, i, ?_⟩
      rw [DialogueStep.query?, hd]
      rfl
    | replied => exact absurd hasks (sequel_not_asks _ _ _ c _ next)
    | dropped | queued =>
      obtain ⟨due, p, he⟩ := hasks
      cases he
    | putOff s' ht w' stage htrigger k events delay e hd stage' hst =>
      obtain ⟨due, p, he⟩ := hasks
      rcases hst with rfl | ⟨due', rfl⟩ <;> cases he

lemma submits_of_query? {a : Action σ} {s : DialogueStep}
    (h : Change rules cluster w a (some s) w') {i : JobIdentity}
    (hq : s.query? = some (.submit i)) : w'.Submits s.task s.cell := by
  cases h with
  | asked t task ht hd c stage p hact cell hc hr trigger k events q next hu k' due =>
    obtain rfl : q = .submit i := Option.some.inj hq
    refine ⟨.calling c (.asking (.submit i) next due) p, ?_, i, next, due, p, rfl⟩
    have hleave : (w.leave k' c { cell with container := k, holder := stage.locker t cell }
      events).task? t = some task := ht
    rw [activity?, task?_goOn, if_pos rfl, hleave]
    rfl
  | replied | putOff => cases hq

/-- A task that submits a job does so until it hears the answer or is dropped. -/
lemma dropped_of_submits {a : Action σ} {s : Option DialogueStep}
    (h : Change rules cluster w a s w')
    {t : TaskId} {c : CellId} (hc : c < w.cells.length) (ht : w.Submits t c)
    (hnot : ¬ w'.Submits t c) :
    (∃ s', s = some s' ∧ s'.task = t ∧ s'.cell = c) ∨
      ∃ task, w.task? t = some task ∧ (a = .drop t ∨ w.isDoomed task = true) := by
  obtain ⟨x, hx, i, next, due, p, rfl⟩ := ht
  have hlost : w'.activity? t ≠ w.activity? t := fun he =>
    hnot ⟨_, he.trans hx, i, next, due, p, rfl⟩
  have hother : ∀ {w₁ : World σ} {j : TaskId} {y : Activity},
      w₁.activity? t = w.activity? t → (w₁.goOn j y).activity? t ≠ w.activity? t → j = t := by
    intro w₁ j y hsame hne
    by_contra hj
    exact hne ((activity?_goOn_of_ne (Ne.symm hj) y).trans hsame)
  cases h with
  | doomed j task hj hf hd =>
    by_cases he : j = t
    · subst he
      exact .inr ⟨task, hj, .inr hd⟩
    · exact absurd (activity?_drop_of_ne (Ne.symm he)) hlost
  | dropped j task hj =>
    by_cases he : j = t
    · subst he
      exact .inr ⟨task, hj, .inl rfl⟩
    · exact absurd (activity?_drop_of_ne (Ne.symm he)) hlost
  | begun j task hj hd request hact b a ho =>
    obtain rfl := hother ((activity?_book_of hx b).trans hx.symm) hlost
    rw [activity?_eq hj, hact] at hx
    cases hx
  | moved j y y' hy hm =>
    obtain rfl := hother rfl hlost
    cases hx.symm.trans hy
    cases hm with
    | vanish c stage p hnone => exact absurd hnone (by simp [cell?, hc])
  | queued j c' e p' hy cell hcell hl =>
    obtain rfl := hother rfl hlost
    cases hx.symm.trans hy
  | asked j task hj hd c' stage p' hact =>
    obtain rfl := hother rfl hlost
    rw [activity?_eq hj, hact] at hx
    cases hx
    exact .inl ⟨_, rfl, rfl, rfl⟩
  | replied j task hj hd c' stage p' hact cell hcell hr trigger k events reply hu k' =>
    have hleave : (w.leave k' c' (handOn { cell with container := k }) events).activity? t =
      some _ := hx
    obtain rfl := hother ((activity?_book_of hleave _).trans hx.symm) hlost
    rw [activity?_eq hj, hact] at hx
    cases hx
    exact .inl ⟨_, rfl, rfl, rfl⟩
  | putOff j task hj hd c' stage p' hact =>
    obtain rfl := hother rfl hlost
    rw [activity?_eq hj, hact] at hx
    cases hx
    exact .inl ⟨_, rfl, rfl, rfl⟩
  | requested => exact absurd (activity?_addTask_of_lt (lt_of_activity? hx) _) hlost
  | restored identity runId =>
    have hentered : (w.enter (.restore identity runId)).activity? t = some _ := hx
    exact absurd ((activity?_book_of hentered _).trans hx.symm) hlost
  | _ => exact absurd rfl hlost

/-! ### One action -/

/-- What is said about a stranded container changes nothing, tells nothing, asks nothing and
releases nothing. -/
lemma Attentive.idle_of_stranded (hatt : w.Attentive rules.policy) {a : Action σ}
    {s : DialogueStep} (h : Change rules cluster w a (some s) w') (hs : w.Stranded s.cell) :
    s.after = s.before ∧ s.dialogue.events = [] ∧ s.query? = none ∧ s.releases? = none := by
  obtain ⟨⟨k, hk, hsubmitting⟩, hnobody⟩ := hs
  cases (container?_of_dialogueStep h).1.symm.trans hk
  have hexchange := hatt.exchange h
  rcases hexchange.of_submitting hsubmitting with ⟨i, answer, htrigger⟩ | ⟨hafter, hevents, hquery⟩
  -- the answer goes to a task that waits for it, and there is none
  · obtain ⟨stage, hactivity, hfits⟩ := activity?_of_dialogueStep h
    rw [htrigger] at hfits
    cases stage with
    | asking q next due =>
      obtain rfl : Query.submit i = q := hfits
      exact absurd ⟨_, hactivity, i, next, due, s.purpose, rfl⟩ (hnobody s.task)
    | _ => exact hfits.elim
  · refine ⟨hafter, hevents, hquery, ?_⟩
    cases hreleases : s.releases? with
    | none => rfl
    | some j =>
      obtain ⟨-, shown, hreply, hterminal⟩ := DialogueStep.of_releases? hreleases
      rw [s.snapshot_of_reply? hexchange hreply, DialogueStep.after, hafter] at hterminal
      rw [show s.before.snapshot.state = .submitting from hsubmitting] at hterminal
      cases hterminal

/-- A stranded container stays as it is. -/
lemma Attentive.stranded_act (hatt : w.Attentive rules.policy) {c : CellId}
    (hc : w.Stranded c) (cluster : Cluster σ) (a : Action σ) :
    (w.act rules cluster a).Stranded c ∧
      (w.act rules cluster a).container? c = w.container? c := by
  have h := act_change rules cluster w a
  obtain ⟨⟨k, hk, hsubmitting⟩, hnobody⟩ := id hc
  have hsame : (w.act rules cluster a).container? c = w.container? c := by
    by_cases hsaid : ∃ s, w.dialogueStepOf? rules cluster a = some s ∧ s.cell = c
    · obtain ⟨s, hs, rfl⟩ := hsaid
      rw [hs] at h
      obtain ⟨hbefore, hafter⟩ := container?_of_dialogueStep h
      rw [hbefore, hafter, (hatt.idle_of_stranded h hc).1]
    · exact container?_of_ne h (lt_of_container? hk) fun s hs he => hsaid ⟨s, hs, he⟩
  refine ⟨⟨⟨k, hsame.trans hk, hsubmitting⟩, fun t ht => ?_⟩, hsame⟩
  rcases submits_of_change h ht with ht | ⟨s, hs, rfl, i, hq⟩
  · exact hnobody t ht
  · rw [hs] at h
    cases (hatt.idle_of_stranded h hc).2.2.1.symm.trans hq

/-- A container that is stranded after a change was being submitted before, and no answer to the
submission has come in. -/
lemma Attentive.submitting_before (hatt : w.Attentive rules.policy) {a : Action σ}
    {s : Option DialogueStep} (h : Change rules cluster w a s w') {c : CellId}
    (hc : w'.Stranded c) :
    (∃ k, w.container? c = some k ∧ k.state = .submitting) ∧
      ∀ s', s = some s' → s'.cell = c → ∀ i answer, s'.trigger ≠ .answer (.submit i) answer := by
  obtain ⟨⟨k', hk', hsubmitting'⟩, hnobody'⟩ := hc
  by_cases hsaid : ∃ s', s = some s' ∧ s'.cell = c
  · obtain ⟨s', rfl, rfl⟩ := hsaid
    obtain ⟨hbefore, hafter⟩ := container?_of_dialogueStep h
    cases hafter.symm.trans hk'
    have hexchange := hatt.exchange h
    rcases hexchange.submitting_after hsubmitting' with ⟨i, hq⟩ | hsubmitting
    · exact absurd (submits_of_query? h hq) (hnobody' _)
    · refine ⟨⟨_, hbefore, hsubmitting⟩, ?_⟩
      rintro _ ⟨⟩ - i answer htrigger
      exact (hexchange.of_submission htrigger).2 hsubmitting'
  · have hnone : ∀ s', s = some s' → s'.cell ≠ c := fun s' hs he => hsaid ⟨s', hs, he⟩
    refine ⟨⟨k', ?_, hsubmitting'⟩, fun s' hs he => absurd he (hnone s' hs)⟩
    by_cases hlt : c < w.cells.length
    · rw [← hk', container?_of_ne h hlt hnone]
    -- containers that come into being are not being submitted
    · obtain ⟨i, rfl | ⟨r, rfl⟩⟩ := (isNew_of_change h).2 c k' (Nat.le_of_not_lt hlt) hk'
      · cases hsubmitting'
      · cases hsubmitting'

/-- A container is stranded only when a task is dropped that submits its job. -/
lemma Attentive.submits_of_stranded (hatt : w.Attentive rules.policy) {a : Action σ}
    {s : Option DialogueStep} (h : Change rules cluster w a s w') {c : CellId}
    (hbefore : ¬ w.Stranded c) (hafter : w'.Stranded c) :
    ∃ t task, w.task? t = some task ∧ w.Submits t c ∧
      (a = .drop t ∨ w.isDoomed task = true) := by
  obtain ⟨⟨k, hk, hsubmitting⟩, hanswers⟩ := hatt.submitting_before h hafter
  obtain ⟨t, ht⟩ : ∃ t, w.Submits t c := by
    by_contra hnobody
    exact hbefore ⟨⟨k, hk, hsubmitting⟩, fun t ht => hnobody ⟨t, ht⟩⟩
  rcases dropped_of_submits h (lt_of_container? hk) ht (hafter.2 t) with
    ⟨s', rfl, rfl, rfl⟩ | ⟨task, htask, hdropped⟩
  -- a task that goes on with its submission has heard the answer
  · obtain ⟨stage, hactivity, hfits⟩ := activity?_of_dialogueStep h
    obtain ⟨x, hx, i, next, due, p, rfl⟩ := ht
    cases hx.symm.trans hactivity
    cases htrigger : s'.trigger with
    | operation e =>
      rw [htrigger] at hfits
      exact hfits.elim
    | answer q answer =>
      rw [htrigger] at hfits
      obtain rfl : q = .submit i := hfits
      exact absurd htrigger (hanswers s' rfl rfl i answer)
  · exact ⟨t, task, htask, ht, hdropped⟩

/-- Whoever drops a task that submits a job strands the job. -/
lemma Attentive.stranded_drop {policy : RetryPolicy} (hatt : w.Attentive policy) {t : TaskId}
    {c : CellId} (ht : w.Submits t c) : (w.drop t).Stranded c := by
  obtain ⟨cell, hc, -, hsubmitting⟩ := hatt.of_submits ht
  refine ⟨⟨cell.container, (w.container?_drop t c).trans (container?_eq hc), hsubmitting⟩, ?_⟩
  rintro i ⟨x, hx, hsubmits⟩
  by_cases hi : i = t
  · subst hi
    rw [activity?_goOn_self hx] at hsubmits
    obtain ⟨j, next, due, p, he⟩ := hsubmits
    cases he
  · rw [activity?_drop_of_ne hi] at hx
    exact hi (hatt.eq_of_submits ht ⟨x, hx, hsubmits⟩)

/-- A job that is stranded stays so, whatever happens from then on: its container does not change,
and whatever is said about it tells nothing, asks nothing and releases nothing. -/
theorem Attentive.stranded_play (hatt : w.Attentive rules.policy) {c : CellId} (hc : w.Stranded c)
    (cluster : Cluster σ) (later : List (Action σ)) :
    (w.play rules cluster later).Stranded c ∧
      (w.play rules cluster later).container? c = w.container? c ∧
      ∀ s ∈ about c (w.history rules cluster later),
        s.dialogue.events = [] ∧ s.query? = none ∧ s.releases? = none := by
  induction later generalizing w with
  | nil => exact ⟨hc, rfl, fun s hs => by cases hs⟩
  | cons a later ih =>
    have h := act_change rules cluster w a
    obtain ⟨hact, hsame⟩ := hatt.stranded_act hc cluster a
    obtain ⟨hplay, hcontainer, hsaid⟩ := ih (hatt.change h) hact
    refine ⟨hplay, hcontainer.trans hsame, fun s hs => ?_⟩
    rw [history, about_append, List.mem_append] at hs
    rcases hs with hs | hs
    · obtain ⟨hs, hcell⟩ := List.mem_filter.1 hs
      rw [Option.mem_toList.1 hs] at h
      rw [decide_eq_true_eq] at hcell
      exact (hatt.idle_of_stranded h (hcell ▸ hc)).2
    · exact hsaid s hs

/-! ### Tasks that are to be dropped -/

/-- Whether a task is to be dropped when it is its turn. -/
def IsAborted (w : World σ) (t : TaskId) : Prop :=
  ∃ task, w.task? t = some task ∧ task.aborted = true

lemma isAborted_goOn {t i : TaskId} {a : Activity} (h : (w.goOn t a).IsAborted i) :
    w.IsAborted i := by
  obtain ⟨task', ht', ha⟩ := h
  rw [task?_goOn] at ht'
  split at ht'
  · obtain ⟨task, ht, rfl⟩ := Option.map_eq_some_iff.1 ht'
    exact ⟨task, ht, ha⟩
  · exact ⟨task', ht', ha⟩

lemma isAborted_addTask {i : TaskId} {a : Activity} (h : (w.addTask a).1.IsAborted i) :
    w.IsAborted i := by
  obtain ⟨task', ht', ha⟩ := h
  rw [task?, addTask, List.getElem?_append] at ht'
  split at ht'
  · exact ⟨task', ht', ha⟩
  · rw [List.getElem?_singleton] at ht'
    split at ht' <;> cases ht'
    cases ha

lemma isAborted_book {b : Bookkeeping} {i : TaskId} (h : (w.book b).IsAborted i) :
    w.IsAborted i ∨ ∃ j, (j, i) ∈ w.supervisors := by
  cases b with
  | supervise c j =>
    simp only [book, supervise] at h
    split at h
    · exact .inl h
    · exact .inl (isAborted_addTask (w := w.prune) h)
  | forget j =>
    cases hs : w.supervisors.lookup j with
    | none =>
      rw [book_forget_of_none hs] at h
      exact .inl h
    | some s =>
      rw [book_forget_of_some hs] at h
      by_cases hi : s = i
      · exact .inr ⟨j, hi ▸ mem_of_lookup hs⟩
      · obtain ⟨task, ht, ha⟩ := h
        rw [task?_abort, if_neg hi, task?_detach, if_neg hi] at ht
        exact .inl ⟨task, ht, ha⟩
  | dismiss j =>
    cases hs : w.supervisors.lookup j with
    | none =>
      rw [book_dismiss_of_none hs] at h
      exact .inl h
    | some s =>
      rw [book_dismiss_of_some hs] at h
      obtain ⟨task', ht', ha⟩ := h
      rw [task?_detach] at ht'
      split at ht'
      · obtain ⟨task, ht, rfl⟩ := Option.map_eq_some_iff.1 ht'
        exact .inl ⟨task, ht, ha⟩
      · exact .inl ⟨task', ht', ha⟩
  | _ => exact .inl h

lemma isAborted_of_change {a : Action σ} {s : Option DialogueStep}
    (h : Change rules cluster w a s w')
    {i : TaskId} (hi : w'.IsAborted i) : w.IsAborted i ∨ ∃ j, (j, i) ∈ w.supervisors := by
  have hdrop : ∀ {t : TaskId}, (w.drop t).IsAborted i → w.IsAborted i := fun {t} ht => by
    obtain ⟨cells, hdropped, -⟩ := w.drop_eq t
    rw [hdropped] at ht
    exact isAborted_goOn (w := { w with cells := cells }) ht
  cases h with
  | doomed t => exact .inl (hdrop hi)
  | dropped t => exact .inl (hdrop hi)
  | begun t task ht hd request hact b a ho => exact isAborted_book (isAborted_goOn hi)
  | moved => exact .inl (isAborted_goOn hi)
  | queued => exact .inl (isAborted_goOn hi)
  | asked => exact .inl (isAborted_goOn hi)
  | replied t task ht hd c stage p hact cell hc hr trigger k events reply hu k' =>
    exact isAborted_book (w := w.leave k' c (handOn { cell with container := k }) events)
      (isAborted_goOn hi)
  | putOff => exact .inl (isAborted_goOn hi)
  | requested => exact .inl (isAborted_addTask hi)
  | restored identity runId => exact isAborted_book (w := w.enter (.restore identity runId)) hi
  | _ => exact .inl hi

/-! ### Runs -/

section Runs

variable {state : σ} {bus : EventBus ContainerEvent} {actions : List (Action σ)} {t : TaskId}

/-- A task that is to be dropped supervises a container or has ended. -/
lemma supervises_of_isAborted {x : Activity}
    (h : ((empty state bus).play rules cluster actions).IsAborted t)
    (hx : ((empty state bus).play rules cluster actions).activity? t = some x) :
    x.supervised? ≠ none ∨ ∃ r, x = .finished r := by
  induction actions using List.reverseRecOn generalizing x with
  | nil => cases (activity?_eq_none rfl t).symm.trans hx
  | append_singleton actions a ih =>
    have hatt := attentive_run rules cluster state bus actions
    have hchange := act_change rules cluster ((empty state bus).play rules cluster actions) a
    rw [play_concat] at h hx
    obtain ⟨x₀, hx₀, hbefore⟩ : ∃ x₀,
        ((empty state bus).play rules cluster actions).activity? t = some x₀ ∧
          (x₀.supervised? ≠ none ∨ ∃ r, x₀ = .finished r) := by
      rcases isAborted_of_change hchange h with haborted | ⟨j, hmem⟩
      · obtain ⟨task, htask, -⟩ := id haborted
        exact ⟨_, activity?_eq htask, ih haborted (activity?_eq htask)⟩
      · obtain ⟨task, htask, hrest⟩ :=
          (tidy_run rules cluster state bus actions).entries j t hmem
        refine ⟨_, activity?_eq htask, ?_⟩
        rcases hrest with hfinished | ⟨-, c, hc, -⟩
        · cases hact : task.activity with
          | finished r => exact .inr ⟨r, rfl⟩
          | _ => simp [Task.isFinished, hact] at hfinished
        · exact .inl (by simp [hc])
    rcases hatt.course hchange hx₀ hx with rfl | hcourse
    · exact hbefore
    · rcases hcourse.supervised? with hsame | hfinished
      · rcases hbefore with hsupervised | ⟨r, rfl⟩
        · exact .inl (hsame ▸ hsupervised)
        · exact absurd hcourse (Course.not_finished r x)
      · exact .inr hfinished

/-- A task that supervises nothing is not dropped when it goes on. -/
lemma isDoomed_of_supervised? {task : Task}
    (ht : ((empty state bus).play rules cluster actions).task? t = some task)
    (hf : task.isFinished = false) (hs : task.activity.supervised? = none) :
    ((empty state bus).play rules cluster actions).isDoomed task = false := by
  have haborted : task.aborted = false := by
    rw [← Bool.not_eq_true]
    intro haborted
    rcases supervises_of_isAborted ⟨task, ht, haborted⟩ (activity?_eq ht) with hne | ⟨r, hr⟩
    · exact hne hs
    · simp [Task.isFinished, hr] at hf
  -- whoever can be detached supervises
  have hdetached : canBeDetached task.activity = false := by
    cases hact : task.activity with
    | summoned | pausing => simp [hact, Activity.supervised?] at hs
    | calling c stage p =>
      cases p with
      | watch => simp [hact, Activity.supervised?] at hs
      | _ => rfl
    | _ => rfl
  rw [isDoomed, haborted, hdetached, Bool.false_and, Bool.or_self]

/-- A task that submits a job supervises nothing, so that only whoever made its request can drop
it. -/
lemma of_submits_run {c : CellId} {task : Task}
    (ht : ((empty state bus).play rules cluster actions).task? t = some task)
    (h : ((empty state bus).play rules cluster actions).Submits t c) :
    task.isFinished = false ∧ task.activity.supervised? = none ∧
      ((empty state bus).play rules cluster actions).isDoomed task = false := by
  obtain ⟨x, hx, i, next, due, p, rfl⟩ := h
  have hactivity : task.activity = .calling c (.asking (.submit i) next due) p :=
    Option.some.inj ((activity?_eq ht).symm.trans hx)
  have hwatches : (Activity.calling c (.asking (.submit i) next due) p).Watches :=
    activity_play (fun y hy => by cases y <;> trivial) (fun _ _ h => h.watches) hx rfl
  have hlooks : (Activity.calling c (.asking (.submit i) next due) p).LooksOnly :=
    activity_play (fun y hy => by cases y <;> trivial) (fun _ _ h => h.looksOnly) hx rfl
  have hsupervised : (Activity.calling c (.asking (.submit i) next due) p).supervised? = none := by
    cases p with
    | watch => cases hwatches rfl
    | watchState => rcases hlooks with hlooks | hlooks <;> cases hlooks
    | _ => rfl
  have hf : task.isFinished = false := by rw [Task.isFinished, hactivity]
  rw [← hactivity] at hsupervised
  exact ⟨hf, hsupervised, isDoomed_of_supervised? ht hf hsupervised⟩

/-- In every run: the job of a container is being submitted while nobody waits for the answer
exactly if a request was dropped that was waiting for it. -/
theorem stranded_iff (rules : Rules) (cluster : Cluster σ) (state : σ)
    (bus : EventBus ContainerEvent) (actions : List (Action σ)) (c : CellId) :
    let w := empty state bus
    (w.play rules cluster actions).Stranded c ↔
      ∃ n t, actions[n]? = some (.drop t) ∧
        (w.play rules cluster (actions.take n)).Submits t c := by
  intro w
  induction actions using List.reverseRecOn with
  | nil => simp [Stranded, w, empty, container?, cell?]
  | append_singleton actions a ih =>
    have hatt := attentive_run rules cluster state bus actions
    rw [play_concat]
    constructor
    · intro hafter
      by_cases hbefore : (w.play rules cluster actions).Stranded c
      · obtain ⟨n, t, hn, ht⟩ := ih.1 hbefore
        have hlt := (List.getElem?_eq_some_iff.1 hn).1
        refine ⟨n, t, by rwa [List.getElem?_append_left hlt], ?_⟩
        rwa [List.take_append_of_le_length (Nat.le_of_lt hlt)]
      · obtain ⟨t, task, htask, ht, rfl | hdoomed⟩ :=
          hatt.submits_of_stranded (act_change rules cluster _ a) hbefore hafter
        · exact ⟨actions.length, t, by simp, by rwa [List.take_left]⟩
        · cases (of_submits_run htask ht).2.2.symm.trans hdoomed
    · rintro ⟨n, t, hn, ht⟩
      by_cases hlt : n < actions.length
      · rw [List.getElem?_append_left hlt] at hn
        rw [List.take_append_of_le_length (Nat.le_of_lt hlt)] at ht
        exact (hatt.stranded_act (ih.2 ⟨n, t, hn, ht⟩) cluster a).1
      · obtain ⟨rfl, rfl⟩ : n = actions.length ∧ a = .drop t := by
          have hle := (List.getElem?_eq_some_iff.1 hn).1
          rw [List.length_append, List.length_singleton] at hle
          obtain rfl : n = actions.length := by omega
          simpa using hn
        rw [List.take_left] at ht
        obtain ⟨x, hx, -⟩ := id ht
        obtain ⟨task, htask, -⟩ := Option.map_eq_some_iff.1 hx
        obtain ⟨hfinished, hsupervised, -⟩ := of_submits_run htask ht
        have hdrop : (w.play rules cluster actions).act rules cluster (.drop t) =
            (w.play rules cluster actions).drop t := by
          simp [act, dropRequest, htask, hfinished, hsupervised]
        rw [hdrop]
        exact hatt.stranded_drop ht

/-- A job that is started by a request that is dropped while the cluster is asked to submit the
job. -/
def droppedStart : List (Action Unit) :=
  [.create (.bare ⟨"a"⟩), .request (.start ⟨"a"⟩), .step 0, .step 0, .drop 0]

example : ((empty () ⟨8, 0, [], [], 0⟩).play ⟨.standard, .standard⟩ .oblivious
    droppedStart).Stranded 0 :=
  (stranded_iff _ _ _ _ _ _).2 ⟨4, 0, rfl, _, rfl, _, _, _, _, rfl⟩

end Runs

end World

end Supervision

end JobSupervision
