/-
# Shutting down

A shutdown is for good.  From then on no polling task asks anything, wherever it was when the
shutdown came: it is dropped before its next question.  A request to start a job fails as soon as
it begins, a job that runs already is not entered, and neither changes anything else.  No run is
stopped by any of this: whoever stops a run was started to do so (`Course.spares`).
-/
import JobSupervision.Proofs.Supervision.Stranding

namespace JobSupervision

/-! ### What leaves runs alone -/

/-- Whether a trigger is neither the operation to stop a container nor the answer to stopping its
run. -/
def Trigger.Spares : Trigger → Prop
  | .operation e => e ≠ .stop
  | .answer q _ => ∀ r, q ≠ .kill r

/-- Whether a dialogue neither begins by stopping a run nor ends by coming back for that. -/
def Dialogue.Spares : Dialogue Turn → Prop
  | .ask _ _ q _ => ∀ r, q ≠ .kill r
  | .done ⟨_, _, .again _ e⟩ => e ≠ .stop
  | .done ⟨_, _, .reply _⟩ => True

/-- Only the operation to stop a container stops its run. -/
lemma Exchange.spares {policy : RetryPolicy} {c : Container} {trigger : Trigger}
    {d : Dialogue Turn}
    (h : Exchange policy c trigger d) (htrigger : trigger.Spares) : d.Spares := by
  cases h with
  | askStop => exact absurd rfl htrigger
  | submit | askStatus | attemptKnown | attemptUnknown | search | adopt =>
    intro r hr
    cases hr
  | lost | enterRecovery | giveUp | sameRun | noRun | noSearch | rest =>
    intro he
    cases he
  | _ => trivial

namespace Supervision

variable {σ : Type} {rules : Rules} {cluster : Cluster σ} {w w' : World σ}

/-- Whether a call stands where no run is being stopped. -/
def CallStage.Spares : CallStage → Prop
  | .arriving e | .queued e | .resting e _ => e ≠ .stop
  | .asking q _ _ => ∀ r, q ≠ .kill r

lemma CallStage.Spares.of_fits {stage : CallStage} {trigger : Trigger} (h : stage.Spares)
    (htrigger : stage.Fits trigger) : trigger.Spares := by
  cases stage <;> cases trigger <;> cases htrigger <;> exact h

/-- Whether a task is started to stop a container. -/
def Activity.Stops (a : Activity) : Prop :=
  (∃ j, a = .fresh (.stop j)) ∨ ∃ c, a = .fresh (.call c .stop)

/-- Whether a task neither stops a run nor is about to. -/
def Activity.Spares : Activity → Prop
  | .fresh request => ¬ (Activity.fresh request).Stops
  | .calling _ stage _ => stage.Spares
  | _ => True

theorem Course.spares {a a' : Activity} (h : Course σ rules a a') (ha : a.Spares) :
    a'.Spares := by
  cases h with
  | dropped => trivial
  | begun w request b a ho =>
    cases ho with
    | stop j => exact absurd (.inl ⟨j, rfl⟩) ha
    | call c e =>
      rintro rfl
      exact ha (.inr ⟨c, rfl⟩)
    | start | status | release | dismissNobody | joinNobody =>
      intro he
      cases he
    | _ => trivial
  | moved w a a' hm =>
    cases hm with
    | comeBack => exact ha
    | poll | showCell | showJob =>
      intro he
      cases he
    | _ => trivial
  | queued => exact ha
  | asked c stage p k trigger htrigger k' events q next hs due =>
    exact hs.spares (ha.of_fits htrigger)
  | replied w c stage p k trigger htrigger k' events reply hs =>
    rcases World.sequel_cases rules w c p reply with ⟨r, hr⟩ | hr | ⟨due, hr⟩ <;> rw [hr]
    · trivial
    · intro he
      cases he
    · trivial
  | putOff c stage p k trigger htrigger k' events delay e hs stage' hst =>
    have he : e ≠ .stop := hs.spares (ha.of_fits htrigger)
    rcases hst with rfl | ⟨due, rfl⟩ <;> exact he

lemma spares_of_courses {a a' : Activity} (h : Relation.ReflTransGen (Course σ rules) a a')
    (ha : a.Spares) : a'.Spares := by
  induction h with
  | refl => exact ha
  | tail _ hstep ih => exact hstep.spares ih

/-- A task that was started to supervise a container polls it and does nothing else. -/
lemma supervised?_of_courses {a a' : Activity}
    (h : Relation.ReflTransGen (Course σ rules) a a') :
    a'.supervised? = a.supervised? ∨ ∃ r, a' = .finished r := by
  induction h with
  | refl => exact .inl rfl
  | tail _ hstep ih =>
    rcases ih with hsame | ⟨r, rfl⟩
    · rcases hstep.supervised? with hnext | hfinished
      · exact .inl (hnext.trans hsame)
      · exact .inr hfinished
    · exact absurd hstep (Course.not_finished r _)

lemma purpose_of_supervised? {c c' : CellId} {stage : CallStage} {p : Purpose}
    (h : (Activity.calling c stage p).supervised? = some c') : p = .watch ∨ p = .watchState := by
  cases p with
  | watch => exact .inl rfl
  | watchState => exact .inr rfl
  | _ => cases h

/-- Whether a task is about to start a job, or was and came too late, or was dropped before. -/
def Activity.StartsInVain (j : JobId) (dropped : Prop) (a : Activity) : Prop :=
  a = .fresh (.start j) ∨ a = .finished (.error .shutDown) ∨
    a = .finished (.ok .nothing) ∧ dropped

namespace World

/-! ### A shutdown is for good -/

lemma shutDown_book (w : World σ) (b : Bookkeeping) :
    (w.book b).shutDown = w.shutDown ∨ (w.book b).shutDown = true := by
  cases b with
  | supervise c j =>
    simp only [book, supervise]
    split <;> exact .inl rfl
  | forget j =>
    cases hs : w.supervisors.lookup j with
    | none => exact .inl (by rw [book_forget_of_none hs])
    | some s => exact .inl (by rw [book_forget_of_some hs]; rfl)
  | dismiss j =>
    cases hs : w.supervisors.lookup j with
    | none => exact .inl (by rw [book_dismiss_of_none hs])
    | some s => exact .inl (by rw [book_dismiss_of_some hs]; rfl)
  | close => exact .inr rfl
  | cancel => exact .inr rfl
  | _ => exact .inl rfl

lemma shutDown_of_change {a : Action σ} {s : Option DialogueStep}
    (h : Change rules cluster w a s w') (hdown : w.shutDown = true) : w'.shutDown = true := by
  have hbook : ∀ (w₁ : World σ) (b : Bookkeeping), w₁.shutDown = w.shutDown →
      (w₁.book b).shutDown = true := by
    intro w₁ b hsame
    rcases w₁.shutDown_book b with h | h
    · rw [h, hsame, hdown]
    · exact h
  have hdrop : ∀ t, (w.drop t).shutDown = true := fun t => by
    obtain ⟨cells, hdropped, -⟩ := w.drop_eq t
    rw [hdropped]
    exact hdown
  cases h with
  | doomed t => exact hdrop t
  | dropped t => exact hdrop t
  | begun t task ht hd request hact b => exact hbook w b rfl
  | replied t task ht hd c stage p hact cell hc hr trigger k events reply hu k' =>
    exact hbook (w.leave k' c (handOn { cell with container := k }) events) _ rfl
  | restored identity runId =>
    exact hbook (w.enter (.restore identity runId)) (.supervise _ _) rfl
  | cancelled => rfl
  | _ => exact hdown

lemma shutDown_play (rules : Rules) (cluster : Cluster σ) (hdown : w.shutDown = true)
    (actions : List (Action σ)) : (w.play rules cluster actions).shutDown = true := by
  induction actions generalizing w with
  | nil => exact hdown
  | cons a rest ih => exact ih (shutDown_of_change (act_change rules cluster w a) hdown)

/-! ### Requests to start a job -/

/-- A request that was not made yet begins when it is its turn, unless it is to be dropped. -/
lemma step_of_fresh {t : TaskId} {request : Request}
    (hx : w.activity? t = some (.fresh request)) (hnot : ¬ w.IsAborted t) :
    w.step rules cluster t = w.begin rules t request ∧ w.dialogueStep? rules cluster t = none := by
  obtain ⟨⟨activity, detached, aborted⟩, ht, rfl⟩ := Option.map_eq_some_iff.1 hx
  have haborted : aborted = false := by
    rw [← Bool.not_eq_true]
    exact fun h => hnot ⟨_, ht, h⟩
  subst haborted
  simp [step, dialogueStep?, isEnabled, ht, Task.isFinished, isDoomed, canBeDetached, isReady]

lemma dropRequest_of_fresh {t : TaskId} {request : Request}
    (hx : w.activity? t = some (.fresh request)) : w.dropRequest t = w.drop t := by
  obtain ⟨task, ht, hact⟩ := Option.map_eq_some_iff.1 hx
  simp [dropRequest, ht, Task.isFinished, hact, Activity.supervised?]

lemma shutDown_begin_shutdown (t : TaskId) : (w.begin rules t .shutdown).shutDown = true := by
  rw [begin]
  cases w.supervisors.map (·.2) <;> rfl

section Runs

variable {state : σ} {bus : EventBus ContainerEvent} {actions : List (Action σ)} {t : TaskId}

/-- Nobody but whoever made a request drops it before it begins. -/
lemma step_of_fresh_run {request : Request}
    (hx : ((empty state bus).play rules cluster actions).activity? t = some (.fresh request)) :
    ((empty state bus).play rules cluster actions).step rules cluster t =
        ((empty state bus).play rules cluster actions).begin rules t request ∧
      ((empty state bus).play rules cluster actions).dialogueStep? rules cluster t = none := by
  refine step_of_fresh hx fun haborted => ?_
  rcases supervises_of_isAborted haborted hx with hsupervises | ⟨r, hr⟩
  · exact hsupervises rfl
  · cases hr

/-- After a shutdown, a task that is about to start a job comes to nothing. -/
lemma startsInVain_act {j : JobId} {dropped : Prop} {x x' : Activity}
    (hdown : ((empty state bus).play rules cluster actions).shutDown = true)
    (hx : ((empty state bus).play rules cluster actions).activity? t = some x)
    (hvain : x.StartsInVain j dropped) {a : Action σ}
    (hx' : (((empty state bus).play rules cluster actions).act rules cluster a).activity? t =
      some x') : x'.StartsInVain j (dropped ∨ a = .drop t) := by
  have hchange := act_change rules cluster ((empty state bus).play rules cluster actions) a
  rcases hvain with rfl | rfl | ⟨rfl, hdropped⟩
  · by_cases hstep : a = .step t
    · subst hstep
      rw [act, (step_of_fresh_run hx).1, begin, if_pos hdown] at hx'
      exact .inr (.inl (activity?_goOn_self hx'))
    by_cases hdrop : a = .drop t
    · subst hdrop
      rw [act, dropRequest_of_fresh hx] at hx'
      exact .inr (.inr ⟨activity?_goOn_self hx', .inr rfl⟩)
    · rw [activity?_of_change_of_ne hchange hx hstep hdrop] at hx'
      exact .inl (Option.some.inj hx').symm
  · exact .inr (.inl (eq_of_finished hchange hx hx'))
  · exact .inr (.inr ⟨eq_of_finished hchange hx hx', .inl hdropped⟩)

/-- A task that has not begun to start a job when the supervision is shut down comes to
nothing. -/
lemma startsInVain_play {j : JobId} {first later : List (Action σ)}
    (hdown : ((empty state bus).play rules cluster first).shutDown = true)
    (hfirst : ∀ x, ((empty state bus).play rules cluster first).activity? t = some x →
      x = .fresh (.start j))
    (hstart : ∀ x, ((empty state bus).starters rules cluster (first ++ later))[t]? = some x →
      x = .fresh (.start j)) {x : Activity}
    (hx : ((empty state bus).play rules cluster (first ++ later)).activity? t = some x) :
    x.StartsInVain j (.drop t ∈ later) := by
  induction later using List.reverseRecOn generalizing x with
  | nil =>
    rw [List.append_nil] at hx
    exact .inl (hfirst x hx)
  | append_singleton later a ih =>
    rw [← List.append_assoc] at hx hstart
    cases hx₀ : ((empty state bus).play rules cluster (first ++ later)).activity? t with
    | none =>
      rw [← starters_concat_of_none hx₀ rfl] at hx
      exact .inl (hstart x hx)
    | some x₀ =>
      rw [starters_concat_of_some hx₀ rfl] at hstart
      have hvain := ih hstart hx₀
      have hdown' : ((empty state bus).play rules cluster (first ++ later)).shutDown = true := by
        rw [play_append]
        exact shutDown_play rules cluster hdown later
      rw [play_concat] at hx
      have hnext := startsInVain_act hdown' hx₀ hvain hx
      rw [Activity.StartsInVain] at hnext ⊢
      rw [List.mem_append, List.mem_singleton, eq_comm (a := Action.drop t)]
      exact hnext

/-- After a shutdown, no task that supervises a container asks anything. -/
lemma not_polls_of_shutDown {first later : List (Action σ)}
    (hdown : ((empty state bus).play rules cluster first).shutDown = true) {s : DialogueStep}
    (hs : s ∈ ((empty state bus).play rules cluster first).history rules cluster later) :
    s.polls = false := by
  obtain ⟨n, a, w', hchange⟩ := change_of_mem_history hs
  have hlater := shutDown_play rules cluster hdown (later.take n)
  rw [← play_append] at hchange hlater
  by_contra hpolls
  rw [Bool.not_eq_false] at hpolls
  have hattends := attends_of_polls (attentive_run rules cluster state bus _)
    (fun t x hx => looksOnly_play rules cluster state bus _ t x hx) hchange hpolls
  -- whoever polls was not told to shut down
  exact Bool.noConfusion (hattends.1.symm.trans hlater)

/-- Whatever a task says that was started to supervise a container, it says for the
supervision. -/
lemma purpose_of_summoned {s : DialogueStep}
    (hs : s ∈ (empty state bus).history rules cluster actions) {c : CellId}
    (hstart : ((empty state bus).starters rules cluster actions)[s.task]? = some (.summoned c)) :
    s.purpose = .watch ∨ s.purpose = .watchState := by
  obtain ⟨first, stage, hfirst, hcourse, -⟩ := course_of_mem_history rfl hs
  cases hfirst.symm.trans hstart
  rcases supervised?_of_courses hcourse with hsupervised | ⟨r, hr⟩
  · exact purpose_of_supervised? hsupervised
  · cases hr

/-- Whoever stops a run was started to stop a container. -/
lemma stops_of_kill {s : DialogueStep} (hs : s ∈ (empty state bus).history rules cluster actions)
    {r : RunId} (hkill : s.query? = some (.kill r)) :
    ∃ a, ((empty state bus).starters rules cluster actions)[s.task]? = some a ∧ a.Stops := by
  have hexchange := exchange_of_mem_history (attentive_of_tasks rules.policy rfl) hs
  obtain ⟨first, stage, hfirst, hcourse, hfits⟩ := course_of_mem_history rfl hs
  refine ⟨first, hfirst, ?_⟩
  by_contra hstops
  have hspares : first.Spares := by
    have hisStart := isStart_of_starters rfl hfirst
    cases first with
    | fresh request => exact hstops
    | calling => cases hisStart
    | _ => trivial
  have hcalling : stage.Spares := spares_of_courses hcourse hspares
  have hdialogue := hexchange.spares (hcalling.of_fits hfits)
  obtain ⟨task, purpose, cell, before, trigger, dialogue⟩ := s
  cases dialogue with
  | done => cases hkill
  | ask k events q next => exact hdialogue r (Option.some.inj hkill)

end Runs

/-! ### What a shutdown does in a run -/

/-- What a shutdown does in a run, and what it leaves alone. -/
structure ShutsDownWell (rules : Rules) (cluster : Cluster σ) (w : World σ)
    (actions : List (Action σ)) : Prop where
  /-- When a request to shut down begins, the supervision is shut down. -/
  heeded : ∀ n t, actions[n]? = some (.step t) →
    (w.play rules cluster (actions.take n)).activity? t = some (.fresh .shutdown) →
      (w.play rules cluster (actions.take (n + 1))).shutDown = true
  /-- It stays shut down. -/
  lasting : ∀ n, (w.play rules cluster (actions.take n)).shutDown = true → ∀ m, n ≤ m →
    (w.play rules cluster (actions.take m)).shutDown = true
  /-- From then on no task asks anything that supervises a container, also if it is started only
  then. -/
  quiet : ∀ n, (w.play rules cluster (actions.take n)).shutDown = true →
    ∀ s ∈ (w.play rules cluster (actions.take n)).history rules cluster (actions.drop n),
      ∀ c, (w.starters rules cluster actions)[s.task]? = some (.summoned c) → s.query? = none
  /-- A request to start a job that has not begun by then says nothing, and fails unless whoever
  made it drops it before it begins. -/
  tooLate : ∀ n t j, (w.play rules cluster (actions.take n)).shutDown = true →
    (w.starters rules cluster actions)[t]? = some (.fresh (.start j)) →
    (∀ x, (w.play rules cluster (actions.take n)).activity? t = some x → x = .fresh (.start j)) →
      (∀ s ∈ (w.play rules cluster (actions.take n)).history rules cluster (actions.drop n),
        s.task ≠ t) ∧
      ∀ r, (w.play rules cluster actions).result? t = some r →
        r = .error .shutDown ∨ r = .ok .nothing ∧ .drop t ∈ actions.drop n
  /-- When such a request begins it fails, and nothing else happens. -/
  refused : ∀ n t j, (w.play rules cluster (actions.take n)).shutDown = true →
    actions[n]? = some (.step t) →
    (w.play rules cluster (actions.take n)).activity? t = some (.fresh (.start j)) →
      w.play rules cluster (actions.take (n + 1)) =
        (w.play rules cluster (actions.take n)).finish t (.error .shutDown)
  /-- A job that runs already is not entered, and nothing happens. -/
  notRestored : ∀ n identity runId, (w.play rules cluster (actions.take n)).shutDown = true →
    actions[n]? = some (.restore identity runId) →
      (w.play rules cluster (actions.take n)).restore identity runId = .error .shutDown ∧
        w.play rules cluster (actions.take (n + 1)) = w.play rules cluster (actions.take n)
  /-- At any time, only a task stops a run that was started to stop a container. -/
  spared : ∀ s ∈ w.history rules cluster actions, ∀ r, s.query? = some (.kill r) →
    ∃ a, (w.starters rules cluster actions)[s.task]? = some a ∧ a.Stops

/-- In every run, whatever tasks there are and wherever they stand: a shutdown keeps polling tasks
from asking anything further, has later requests fail that would submit or enter a job, and stops
no run. -/
theorem shutsDownWell_run (rules : Rules) (cluster : Cluster σ) (state : σ)
    (bus : EventBus ContainerEvent) (actions : List (Action σ)) :
    ShutsDownWell rules cluster (empty state bus) actions := by
  refine ⟨?_, ?_, ?_, ?_, ?_, ?_, fun s hs r => stops_of_kill hs⟩
  · intro n t ha hx
    rw [play_take_succ rules cluster _ ha, act, (step_of_fresh_run hx).1]
    exact shutDown_begin_shutdown t
  · intro n hdown m hle
    obtain ⟨k, rfl⟩ := Nat.exists_eq_add_of_le hle
    rw [List.take_add, play_append]
    exact shutDown_play rules cluster hdown _
  · intro n hdown s hs c hstart
    have hmem : s ∈ (empty state bus).history rules cluster actions := by
      rw [← List.take_append_drop n actions, history_append]
      exact List.mem_append_right _ hs
    have hpolls := not_polls_of_shutDown hdown hs
    have hpurpose := purpose_of_summoned hmem hstart
    simpa [DialogueStep.polls, hpurpose] using hpolls
  · intro n t j hdown hstart hfirst
    have hvain : ∀ p x, ((empty state bus).play rules cluster
        (actions.take n ++ (actions.drop n).take p)).activity? t = some x →
          x.StartsInVain j (.drop t ∈ (actions.drop n).take p) := by
      intro p x hx
      refine startsInVain_play hdown hfirst (fun x₀ hx₀ => ?_) hx
      rw [← List.take_add] at hx₀
      exact Option.some.inj ((starters_of_take hx₀).symm.trans hstart)
    constructor
    · rintro s hs rfl
      obtain ⟨p, stage, hx, -⟩ := activity?_of_mem_history hs
      rw [← play_append] at hx
      rcases hvain p _ hx with h | h | ⟨h, -⟩ <;> cases h
    · intro r hr
      have hend := hvain (actions.drop n).length (.finished r)
      rw [List.take_length, List.take_append_drop] at hend
      rcases hend (result?_eq hr) with h | h | ⟨h, hdropped⟩ <;> cases h
      · exact .inl rfl
      · exact .inr ⟨rfl, hdropped⟩
  · intro n t j hdown ha hx
    rw [play_take_succ rules cluster _ ha, act, (step_of_fresh_run hx).1, begin, if_pos hdown]
  · intro n identity runId hdown ha
    have hrestore := restore_of_shutDown hdown identity runId
    refine ⟨hrestore, ?_⟩
    rw [play_take_succ rules cluster _ ha, act, hrestore]
    rfl

/-- A polling task is shut down while it waits for an answer, and a request to start another job
comes too late: the question stays the only one. -/
example :
    let w := empty () ⟨8, 0, [], [], 0⟩
    let rules : Rules := ⟨.standard, { pollIntervalMs := 1 }⟩
    let actions : List (Action Unit) := [.restore (.bare ⟨"a"⟩) ⟨"r"⟩, .step 0, .pass 1, .step 0,
      .step 0, .create (.bare ⟨"b"⟩), .request (.start ⟨"b"⟩), .request .shutdown, .step 2, .step 0,
      .step 1, .step 2]
    (w.history rules .oblivious actions).map (·.polls) = [true] ∧
      (List.range 3).map (w.play rules .oblivious actions).result? =
        [some (.ok .nothing), some (.error .shutDown), some (.ok (.shutDown true))] := by
  decide

end World

end Supervision

end JobSupervision
