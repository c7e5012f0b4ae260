/-
# Tasks that watch a container

A task that polls a container watches it until there is a reason to end (`MayEnd`): the container
has ended, the task was told to end or is to be dropped, or the supervision was shut down.  Neither
an error nor what other callers do to the container is such a reason, a reason stays once it is
there, and so every task that was started to poll a container watches it until then
(`watches_or_mayEnd_of_starters`).  What a task was told is marked at the task; the marks are
followed through a change first (`marked_of_change`).
-/
import JobSupervision.Proofs.Supervision.Shutdown

namespace JobSupervision.Supervision

variable {σ : Type} {rules : Rules} {cluster : Cluster σ} {w w' : World σ}

lemma cell_of_supervised? {c c' : CellId} {stage : CallStage} {p : Purpose}
    (h : (Activity.calling c stage p).supervised? = some c') : c = c' := by
  rcases purpose_of_supervised? h with rfl | rfl <;> exact Option.some.inj h

/-! ### The marks of tasks -/

/-- The marks that a task was given stay, and one that comes to be dropped was told to end. -/
structure Task.KeepsMarks (task task' : Task) : Prop where
  /-- It was told to end for good. -/
  detached : task.detached = true → task'.detached = true
  /-- It is to be dropped for good. -/
  aborted : task.aborted = true → task'.aborted = true
  /-- It is not to be dropped without being told to end. -/
  order : task'.aborted = true → task.aborted = true ∨ task'.detached = true

lemma Task.KeepsMarks.refl (task : Task) : task.KeepsMarks task := ⟨id, id, .inl⟩

namespace World

/-- Every task keeps its marks, and new tasks have none. -/
def Marked (w w' : World σ) : Prop :=
  ∀ t task', w'.task? t = some task' →
    (∃ task, w.task? t = some task ∧ task.KeepsMarks task') ∨
      w.task? t = none ∧ task'.detached = false ∧ task'.aborted = false

lemma Marked.of_tasks (h : w'.tasks = w.tasks) : Marked w w' := fun t task' ht' =>
  .inl ⟨task', by rwa [task?, h] at ht', .refl task'⟩

lemma Marked.goOn (h : Marked w w') (t : TaskId) (a : Activity) : Marked w (w'.goOn t a) := by
  intro i task' hi
  rw [task?_goOn] at hi
  split at hi
  · obtain ⟨task₁, hi₁, rfl⟩ := Option.map_eq_some_iff.1 hi
    rcases h i task₁ hi₁ with ⟨task, ht, hkeeps⟩ | hnew
    · exact .inl ⟨task, ht, hkeeps.detached, hkeeps.aborted, hkeeps.order⟩
    · exact .inr hnew
  · exact h i task' hi

lemma marked_addTask (w : World σ) (a : Activity) : Marked w (w.addTask a).1 := by
  intro i task' hi
  rw [task?, addTask, List.getElem?_append] at hi
  split at hi
  · exact .inl ⟨task', hi, .refl task'⟩
  · next hlt =>
    rw [List.getElem?_singleton] at hi
    split at hi <;> cases hi
    exact .inr ⟨List.getElem?_eq_none (Nat.le_of_not_lt hlt), rfl, rfl⟩

lemma marked_detach (w : World σ) (s : TaskId) : Marked w (w.detach s) := by
  intro i task' hi
  rw [task?_detach] at hi
  split at hi
  · obtain ⟨task, ht, rfl⟩ := Option.map_eq_some_iff.1 hi
    exact .inl ⟨task, ht, fun _ => rfl, id, .inl⟩
  · exact .inl ⟨task', hi, .refl task'⟩

lemma marked_detach_abort (w : World σ) (s : TaskId) : Marked w ((w.detach s).abort s) := by
  intro i task' hi
  rw [task?_abort] at hi
  split at hi
  · next hsi =>
    obtain ⟨task₁, hi₁, rfl⟩ := Option.map_eq_some_iff.1 hi
    rw [task?_detach, if_pos hsi] at hi₁
    obtain ⟨task, ht, rfl⟩ := Option.map_eq_some_iff.1 hi₁
    exact .inl ⟨task, ht, fun _ => rfl, fun _ => rfl, fun _ => .inr rfl⟩
  · exact marked_detach w s i task' hi

lemma marked_book (w : World σ) (b : Bookkeeping) : Marked w (w.book b) := by
  cases b with
  | supervise c j =>
    rcases w.book_supervise_cases c j with hbook | ⟨-, hbook⟩ <;> rw [hbook]
    · exact .of_tasks rfl
    · exact marked_addTask w (.summoned c)
  | forget j =>
    cases hs : w.supervisors.lookup j with
    | none => rw [book_forget_of_none hs]; exact .of_tasks rfl
    | some s => rw [book_forget_of_some hs]; exact marked_detach_abort w s
  | dismiss j =>
    cases hs : w.supervisors.lookup j with
    | none => rw [book_dismiss_of_none hs]; exact .of_tasks rfl
    | some s => rw [book_dismiss_of_some hs]; exact marked_detach w s
  | _ => exact .of_tasks rfl

theorem marked_of_change {a : Action σ} {s : Option DialogueStep}
    (h : Change rules cluster w a s w') :
    Marked w w' := by
  have hdrop : ∀ t, Marked w (w.drop t) := fun t => by
    obtain ⟨cells, hdropped, -⟩ := w.drop_eq t
    rw [hdropped]
    exact (Marked.of_tasks rfl).goOn t _
  cases h with
  | doomed t => exact hdrop t
  | dropped t => exact hdrop t
  | begun t task ht hd request hact b a ho => exact (marked_book w b).goOn t a
  | moved | queued | asked | putOff => exact (Marked.of_tasks rfl).goOn _ _
  | replied t task ht hd c stage p hact cell hc hr trigger k events reply hu k' =>
    have hbook := (w.leave k' c (handOn { cell with container := k }) events).marked_book
      (p.booking c reply)
    exact Marked.goOn hbook t _
  | requested => exact marked_addTask w _
  | restored identity runId =>
    exact (w.enter (.restore identity runId)).marked_book (.supervise _ _)
  | _ => exact .of_tasks rfl

/-- A task that is to be dropped was told to end. -/
lemma detached_of_aborted {state : σ} {bus : EventBus ContainerEvent}
    {actions : List (Action σ)} {t : TaskId} {task : Task}
    (ht : ((empty state bus).play rules cluster actions).task? t = some task)
    (haborted : task.aborted = true) : task.detached = true := by
  induction actions using List.reverseRecOn generalizing task with
  | nil => cases ht
  | append_singleton actions a ih =>
    rw [play_concat] at ht
    rcases marked_of_change (act_change rules cluster _ a) t task ht with
      ⟨task₀, ht₀, hkeeps⟩ | ⟨-, -, hnot⟩
    · rcases hkeeps.order haborted with haborted₀ | hdetached
      · exact hkeeps.detached (ih ht₀ haborted₀)
      · exact hdetached
    · cases hnot.symm.trans haborted

/-! ### Tasks that watch -/

/-- Whether a task polls a container and was neither told to end nor is to be dropped. -/
def Watches (w : World σ) (t : TaskId) (c : CellId) : Prop :=
  ∃ task, w.task? t = some task ∧ task.activity.supervised? = some c ∧
    task.detached = false ∧ task.aborted = false

/-- Whether there is a reason for a task that polls a container to end: the container has ended,
the task was told to end or is to be dropped, or the supervision was shut down. -/
def MayEnd (w : World σ) (t : TaskId) (c : CellId) : Prop :=
  (∃ k, w.container? c = some k ∧ k.state.isTerminal = true) ∨
    (∃ task, w.task? t = some task ∧ (task.detached = true ∨ task.aborted = true)) ∨
    w.shutDown = true

lemma Watches.not_finished {t : TaskId} {c : CellId} (h : w.Watches t c) (r : TaskResult) :
    w.activity? t ≠ some (.finished r) := by
  obtain ⟨task, ht, hs, -⟩ := h
  rw [activity?_eq ht]
  intro hr
  rw [Option.some.inj hr] at hs
  cases hs

lemma watches_or_mayEnd {t : TaskId} {task : Task} (ht : w.task? t = some task) {c : CellId}
    (hs : task.activity.supervised? = some c) : w.Watches t c ∨ w.MayEnd t c := by
  cases hd : task.detached with
  | true => exact .inr (.inr (.inl ⟨task, ht, .inl hd⟩))
  | false =>
    cases ha : task.aborted with
    | true => exact .inr (.inr (.inl ⟨task, ht, .inr ha⟩))
    | false => exact .inl ⟨task, ht, hs, hd, ha⟩

/-- A reply that shows an end shows the container as it is left. -/
lemma isTerminal_of_showsEnd {policy : RetryPolicy} {s : DialogueStep}
    (h : Exchange policy s.before s.trigger s.dialogue) {reply : CallReply}
    (hs : s.reply? = some reply) (hend : showsEnd reply = true) :
    s.after.state.isTerminal = true := by
  rcases reply with e | shown | state
  · cases hend
  · rw [s.snapshot_of_reply? h hs] at hend
    exact hend
  · obtain ⟨task, purpose, cell, before, trigger, dialogue⟩ := s
    dsimp only at h
    cases h <;> cases hs
    exact hend

/-- A task that polls a container ends when it is dropped, or when it is shown the end of the
container. -/
lemma ended_of_change {a : Action σ} {s : Option DialogueStep} (h : Change rules cluster w a s w')
    (htidy : w.Tidy) {t : TaskId} {x : Activity} (hx : w.activity? t = some x) {c : CellId}
    (hc : x.supervised? = some c) {r : TaskResult}
    (hr : w'.activity? t = some (.finished r)) :
    (∃ task, w.task? t = some task ∧ w.isDoomed task = true) ∨
      ∃ s' reply, s = some s' ∧ s'.cell = c ∧ s'.reply? = some reply ∧ showsEnd reply = true := by
  have hne : x ≠ .finished r := by
    rintro rfl
    cases hc
  have hsame : w'.activity? t ≠ some x := fun he => hne (Option.some.inj (he.symm.trans hr))
  -- whoever goes on with the result is the task itself
  have hgoOn : ∀ {w₁ : World σ} {i : TaskId} {y : Activity}, w₁.activity? t = some x →
      (w₁.goOn i y).activity? t = some (.finished r) → t = i ∧ .finished r = y := by
    intro w₁ i y hx₁ h
    exact (activity?_goOn_cases hx₁ h).resolve_left fun he => hne he.2.symm
  cases h with
  | doomed i task ht hf hd =>
    by_cases hi : t = i
    · exact .inl ⟨task, hi ▸ ht, hd⟩
    · exact absurd ((activity?_drop_of_ne hi).trans hx) hsame
  | dropped i task ht hf hs =>
    by_cases hi : t = i
    · subst hi
      cases hx.symm.trans (activity?_eq ht)
      cases hs.symm.trans hc
    · exact absurd ((activity?_drop_of_ne hi).trans hx) hsame
  | begun i task ht hd request hact b a ho =>
    obtain ⟨rfl, -⟩ := hgoOn (activity?_book_of hx b) hr
    rw [activity?_eq ht, hact] at hx
    cases hx
    cases hc
  | moved i y y' hy hm =>
    obtain ⟨rfl, rfl⟩ := hgoOn hx hr
    cases hx.symm.trans hy
    cases hm with
    | vanish c' stage p hnone =>
      -- the containers that are polled are there
      obtain ⟨task, ht, hact⟩ := Option.map_eq_some_iff.1 hx
      obtain ⟨j, hj⟩ := htidy.places t task c ht (hact ▸ hc)
      rw [jobOf?, container?, ← cell_of_supervised? hc, hnone] at hj
      cases hj
    | _ => cases hc
  | queued | asked | putOff => cases (hgoOn hx hr).2
  | replied i task ht hd c' stage p hact cell hcell hrdy trigger k events reply hu k' =>
    have hleave : (w.leave k' c' (handOn { cell with container := k }) events).activity? t =
      some x := hx
    obtain ⟨rfl, hsequel⟩ := hgoOn (activity?_book_of hleave _) hr
    rw [activity?_eq ht, hact] at hx
    cases hx
    refine .inr ⟨_, reply, rfl, cell_of_supervised? hc, rfl, ?_⟩
    by_contra hnot
    rw [Bool.not_eq_true] at hnot
    rcases purpose_of_supervised? hc with rfl | rfl
    · rcases reply with e | v <;> simp [sequel, hnot] at hsequel
    · simp [sequel, hnot] at hsequel
  | requested => exact absurd ((activity?_addTask_of_lt (lt_of_activity? hx) _).trans hx) hsame
  | restored identity runId =>
    have hentered : (w.enter (.restore identity runId)).activity? t = some x := hx
    exact absurd (activity?_book_of hentered _) hsame
  | _ => exact absurd hx hsame

/-! ### Watching in a change -/

lemma keepsMarks_of_change {a : Action σ} {s : Option DialogueStep}
    (h : Change rules cluster w a s w') {t : TaskId} {task : Task} (ht : w.task? t = some task) :
    ∃ task', w'.task? t = some task' ∧ task.KeepsMarks task' := by
  have hlt : t < w'.tasks.length :=
    Nat.lt_of_lt_of_le (List.getElem?_eq_some_iff.1 ht).1 (length_tasks_le h)
  have ht' : w'.task? t = some w'.tasks[t] := List.getElem?_eq_getElem hlt
  refine ⟨_, ht', ?_⟩
  rcases marked_of_change h t _ ht' with ⟨task₀, ht₀, hkeeps⟩ | ⟨hnone, -⟩
  · cases ht.symm.trans ht₀
    exact hkeeps
  · cases ht.symm.trans hnone

/-- A task that watches a container goes on with that unless it may end. -/
lemma Watches.act {t : TaskId} {c : CellId} (h : w.Watches t c) (htidy : w.Tidy)
    (hatt : w.Attentive rules.policy) (cluster : Cluster σ) (a : Action σ) :
    (w.act rules cluster a).Watches t c ∨ (w.act rules cluster a).MayEnd t c := by
  have hchange := act_change rules cluster w a
  obtain ⟨task, ht, hs, hd, ha⟩ := h
  obtain ⟨task', ht', -⟩ := keepsMarks_of_change hchange ht
  rcases hatt.course hchange (activity?_eq ht) (activity?_eq ht') with hsame | hcourse
  · exact watches_or_mayEnd ht' (hsame ▸ hs)
  rcases hcourse.supervised? with hsame | ⟨r, hr⟩
  · exact watches_or_mayEnd ht' (hsame.trans hs)
  refine .inr ?_
  rcases ended_of_change hchange htidy (activity?_eq ht) hs (hr ▸ activity?_eq ht') with
    ⟨task₀, ht₀, hdoomed⟩ | ⟨s, reply, hdialogue, rfl, hreply, hend⟩
  -- a task without marks is dropped only after a shutdown
  · cases ht.symm.trans ht₀
    have hdown : w.shutDown = true := by
      rw [isDoomed, ha, hd] at hdoomed
      simp only [Bool.false_or, Bool.or_false, Bool.and_eq_true] at hdoomed
      exact hdoomed.2
    exact .inr (.inr (shutDown_of_change hchange hdown))
  · rw [hdialogue] at hchange
    exact .inl ⟨s.after, (container?_of_dialogueStep hchange).2,
      isTerminal_of_showsEnd (hatt.exchange hchange) hreply hend⟩

lemma MayEnd.act {t : TaskId} {c : CellId} (h : w.MayEnd t c) (hatt : w.Attentive rules.policy)
    (cluster : Cluster σ) (a : Action σ) : (w.act rules cluster a).MayEnd t c := by
  have hchange := act_change rules cluster w a
  rcases h with ⟨k, hk, hend⟩ | ⟨task, ht, hmarks⟩ | hdown
  · exact .inl ⟨k, (hatt.quiet_of_isTerminal cluster hk hend [a]).1, hend⟩
  · obtain ⟨task', ht', hkeeps⟩ := keepsMarks_of_change hchange ht
    exact .inr (.inl ⟨task', ht', hmarks.imp hkeeps.detached hkeeps.aborted⟩)
  · exact .inr (.inr (shutDown_of_change hchange hdown))

/-- A task that watches a container does so until it may end. -/
lemma Watches.play {state : σ} {bus : EventBus ContainerEvent} {first : List (Action σ)}
    {t : TaskId} {c : CellId}
    (h : ((empty state bus).play rules cluster first).Watches t c ∨
      ((empty state bus).play rules cluster first).MayEnd t c) (later : List (Action σ)) :
    ((empty state bus).play rules cluster (first ++ later)).Watches t c ∨
      ((empty state bus).play rules cluster (first ++ later)).MayEnd t c := by
  induction later using List.reverseRecOn with
  | nil => rwa [List.append_nil]
  | append_singleton later a ih =>
    have hatt := attentive_run rules cluster state bus (first ++ later)
    have htidy := tidy_run rules cluster state bus (first ++ later)
    rw [← List.append_assoc, play_concat]
    rcases ih with hwatches | hmay
    · exact hwatches.act htidy hatt cluster a
    · exact .inr (hmay.act hatt cluster a)

/-- Every task that was started to poll a container watches it until it may end. -/
theorem watches_or_mayEnd_of_starters {state : σ} {bus : EventBus ContainerEvent}
    {actions : List (Action σ)} {t : TaskId} {c : CellId}
    (h : ((empty state bus).starters rules cluster actions)[t]? = some (.summoned c)) :
    ((empty state bus).play rules cluster actions).Watches t c ∨
      ((empty state bus).play rules cluster actions).MayEnd t c := by
  induction actions using List.reverseRecOn with
  | nil => cases h
  | append_singleton actions a ih =>
    cases hx : ((empty state bus).play rules cluster actions).activity? t with
    | some x =>
      rw [starters_concat_of_some hx rfl] at h
      exact Watches.play (ih h) [a]
    | none =>
      rw [starters_concat_of_none hx rfl] at h
      obtain ⟨task, ht, hact⟩ := Option.map_eq_some_iff.1 h
      exact watches_or_mayEnd ht (by rw [hact]; rfl)

end World

end JobSupervision.Supervision
