/-
# The books and the tasks

The books name a task for each job that is polled.  This file follows both through a change:
apart from a few acts of bookkeeping a change leaves the books alone (`Attentive.booked`), and
the books stay tidy (`Tidy`): one task for a job at most, and only tasks that supervise a
container of that job and were not told to end.
-/
import JobSupervision.Proofs.Entries
import JobSupervision.Proofs.Supervision.Course

namespace JobSupervision.Supervision

variable {σ : Type} {rules : Rules} {cluster : Cluster σ} {w w' : World σ}

/-- A task that supervises a container goes on with that or ends, and no other task comes to
supervise one. -/
lemma Course.supervised? {a a' : Activity} (h : Course σ rules a a') :
    a'.supervised? = a.supervised? ∨ ∃ r, a' = .finished r := by
  cases h with
  | dropped => exact .inr ⟨_, rfl⟩
  | begun w request b a ho =>
    cases ho with
    | refused | joinNothing | shutdownNobody => exact .inr ⟨_, rfl⟩
    | _ => exact .inl rfl
  | moved w a a' hm =>
    cases hm with
    | vanish | notFound | shutDown | deliver | wake => exact .inr ⟨_, rfl⟩
    | comeBack c e due p => cases p <;> exact .inl rfl
    | _ => exact .inl rfl
  | queued c e p => cases p <;> exact .inl rfl
  | asked c stage p => cases p <;> exact .inl rfl
  | replied w c stage p k trigger htrigger k' events reply hs =>
    cases p with
    | deliver => exact .inr ⟨_, rfl⟩
    | start => exact .inr ⟨_, rfl⟩
    | release j =>
      rcases reply with e | s | s
      · exact .inr ⟨_, rfl⟩
      · simp only [World.sequel]
        split <;> exact .inr ⟨_, rfl⟩
      · exact .inr ⟨_, rfl⟩
    | watch =>
      rcases reply with e | v
      · exact .inl rfl
      · simp only [World.sequel]
        split
        · exact .inr ⟨_, rfl⟩
        · exact .inl rfl
    | watchState =>
      simp only [World.sequel]
      split
      · exact .inr ⟨_, rfl⟩
      · exact .inl rfl
  | putOff c stage p => cases p <;> exact .inl rfl

namespace World

/-- The job that a container is for. -/
def jobOf? (w : World σ) (c : CellId) : Option JobId := (w.container? c).map (·.jobId)

/-! ### What keeps the books -/

/-- Nothing happens to the books, and tasks only go on with what they do, end, or begin. -/
structure Keeps (w w' : World σ) : Prop where
  /-- The same jobs are known. -/
  registry : w'.registry = w.registry
  /-- The same tasks are in the books. -/
  supervisors : w'.supervisors = w.supervisors
  /-- A shutdown is not noticed or undone. -/
  shutDown : w'.shutDown = w.shutDown
  /-- Containers stay with their jobs. -/
  jobs : ∀ c j, w.jobOf? c = some j → w'.jobOf? c = some j
  /-- A task that supervises a container goes on with that or ends. -/
  tasks : ∀ t task, w.task? t = some task → ∃ task', w'.task? t = some task' ∧
    task'.detached = task.detached ∧ (task.isFinished = true → task'.isFinished = true) ∧
    (task'.activity.supervised? = task.activity.supervised? ∨ task'.isFinished = true)
  /-- New tasks supervise nothing. -/
  fresh : ∀ t task', w'.task? t = some task' → w.task? t = none →
    task'.activity.supervised? = none

lemma Keeps.refl (w : World σ) : Keeps w w where
  registry := rfl
  supervisors := rfl
  shutDown := rfl
  jobs _ _ h := h
  tasks _ task h := ⟨task, h, rfl, id, .inl rfl⟩
  fresh _ _ h h' := by cases h.symm.trans h'

/-- Tasks are left alone, and so are containers up to what happens to them. -/
lemma Keeps.of_tasks (hregistry : w'.registry = w.registry)
    (hsupervisors : w'.supervisors = w.supervisors) (hdown : w'.shutDown = w.shutDown)
    (htasks : w'.tasks = w.tasks) (hjobs : ∀ c j, w.jobOf? c = some j → w'.jobOf? c = some j) :
    Keeps w w' where
  registry := hregistry
  supervisors := hsupervisors
  shutDown := hdown
  jobs := hjobs
  tasks _ task h := ⟨task, by rwa [task?, htasks], rfl, id, .inl rfl⟩
  fresh _ _ h h' := by
    rw [task?, htasks] at h
    cases h.symm.trans h'

lemma Keeps.trans {w₁ w₂ : World σ} (h : Keeps w w₁) (h' : Keeps w₁ w₂) : Keeps w w₂ where
  registry := h'.registry.trans h.registry
  supervisors := h'.supervisors.trans h.supervisors
  shutDown := h'.shutDown.trans h.shutDown
  jobs c j hj := h'.jobs c j (h.jobs c j hj)
  tasks t task ht := by
    obtain ⟨task₁, ht₁, hd₁, hf₁, hs₁⟩ := h.tasks t task ht
    obtain ⟨task₂, ht₂, hd₂, hf₂, hs₂⟩ := h'.tasks t task₁ ht₁
    refine ⟨task₂, ht₂, hd₂.trans hd₁, fun hf => hf₂ (hf₁ hf), ?_⟩
    rcases hs₂ with hs₂ | hs₂
    · rcases hs₁ with hs₁ | hs₁
      · exact .inl (hs₂.trans hs₁)
      · exact .inr (hf₂ hs₁)
    · exact .inr hs₂
  fresh t task₂ ht₂ ht := by
    cases ht₁ : w₁.task? t with
    | none => exact h'.fresh t task₂ ht₂ ht₁
    | some task₁ =>
      obtain ⟨task₂', ht₂', -, -, hs⟩ := h'.tasks t task₁ ht₁
      cases ht₂.symm.trans ht₂'
      rcases hs with hs | hs
      · exact hs.trans (h.fresh t task₁ ht₁ ht)
      · cases ha : task₂.activity with
        | finished r => rfl
        | _ => simp [Task.isFinished, ha] at hs

lemma Keeps.goOn {t : TaskId} {x a : Activity} (hx : w.activity? t = some x)
    (hf : ∀ r, x ≠ .finished r)
    (h : a.supervised? = x.supervised? ∨ ∃ r, a = .finished r) : Keeps w (w.goOn t a) where
  registry := rfl
  supervisors := rfl
  shutDown := rfl
  jobs _ _ hj := hj
  tasks i task hi := by
    rw [task?_goOn, hi]
    by_cases hti : t = i
    · subst hti
      cases (activity?_eq hi).symm.trans hx
      refine ⟨{ task with activity := a }, by simp, rfl, fun hfin => ?_, ?_⟩
      · cases ha : task.activity with
        | finished r => exact absurd ha (hf r)
        | _ => simp [Task.isFinished, ha] at hfin
      · rcases h with h | ⟨r, rfl⟩
        · exact .inl h
        · exact .inr rfl
    · exact ⟨task, if_neg hti, rfl, id, .inl rfl⟩
  fresh i task' hi hnone := by
    rw [task?_goOn, hnone] at hi
    split at hi <;> cases hi

lemma Keeps.addTask (w : World σ) (request : Request) :
    Keeps w (w.addTask (.fresh request)).1 where
  registry := rfl
  supervisors := rfl
  shutDown := rfl
  jobs _ _ hj := hj
  tasks i task hi := by
    have hlt : i < w.tasks.length := (List.getElem?_eq_some_iff.1 hi).1
    exact ⟨task, by rwa [task?, World.addTask, List.getElem?_append_left hlt], rfl, id, .inl rfl⟩
  fresh i task' hi hnone := by
    rcases activity?_addTask (activity?_eq hi) with h | ⟨-, h⟩
    · rw [activity?, hnone] at h
      cases h
    · rw [h]
      rfl

lemma jobOf?_addCell {c : CellId} {j : JobId} (h : w.jobOf? c = some j) (k : Container) :
    (w.addCell k).1.jobOf? c = some j := by
  obtain ⟨k', hk', rfl⟩ := Option.map_eq_some_iff.1 h
  have hlt := lt_of_container? hk'
  rw [jobOf?, container?, cell?, World.addCell, List.getElem?_append_left hlt]
  exact h

lemma jobOf?_new (w : World σ) (k : Container) :
    (w.addCell k).1.jobOf? w.cells.length = some k.jobId := by
  simp [jobOf?, container?, cell?, World.addCell]

lemma Keeps.addCell (w : World σ) (k : Container) : Keeps w (w.addCell k).1 :=
  .of_tasks rfl rfl rfl rfl fun _ _ h => jobOf?_addCell h k

lemma jobOf?_set {c i : CellId} {cell : Cell} (hc : w.cell? c = some cell) (cell' : Cell)
    (hid : cell'.container.identity = cell.container.identity) :
    ({ w with cells := w.cells.set c cell' } : World σ).jobOf? i = w.jobOf? i := by
  rw [jobOf?, container?_set c i cell' hc, jobOf?]
  split
  · subst i
    rw [container?_eq hc]
    exact congrArg some (congrArg JobIdentity.jobId hid)
  · rfl

lemma Keeps.leave {c : CellId} {cell cell' : Cell} (hc : w.cell? c = some cell)
    (hid : cell'.container.identity = cell.container.identity) (k : σ)
    (events : List EventPayload) : Keeps w (w.leave k c cell' events) :=
  .of_tasks rfl rfl rfl rfl fun _ _ h => (jobOf?_set hc cell' hid).trans h

/-- A dialogue step that ends lets the lock go. -/
lemma Keeps.leave_handOn {c : CellId} {cell : Cell} (hc : w.cell? c = some cell)
    {c' : Container} (hid : c'.identity = cell.container.identity) (k : σ)
    (events : List EventPayload) :
    Keeps w (w.leave k c (handOn { cell with container := c' }) events) :=
  .leave hc ((congrArg Container.identity (container_handOn _)).trans hid) k events

lemma Keeps.drop {t : TaskId} {task : Task} (ht : w.task? t = some task)
    (hf : task.isFinished = false) : Keeps w (w.drop t) := by
  have hnot : ∀ r, task.activity ≠ .finished r := fun r hr => by
    simp [Task.isFinished, hr] at hf
  obtain ⟨cells, hdrop, hcontainer⟩ := w.drop_eq t
  have hcells : Keeps w { w with cells := cells } :=
    .of_tasks rfl rfl rfl rfl fun c j hj => by rwa [jobOf?, hcontainer]
  rw [hdrop]
  exact hcells.trans (.goOn (activity?_eq ht) hnot (.inr ⟨_, rfl⟩))

/-! ### What is done to the books in a change -/

/-- What gives occasion to bookkeeping in a change of a world, and in which world it is done. -/
inductive Occasion (rules : Rules) (w : World σ) :
    Action σ → Option DialogueStep → World σ → Bookkeeping → Prop where
  /-- A request begins. -/
  | begun (t : TaskId) (task : Task) (ht : w.task? t = some task) (hd : w.isDoomed task = false)
      (request : Request) (h : task.activity = .fresh request) (b : Bookkeeping) (a : Activity)
      (ho : Opening rules w request b a) : Occasion rules w (.step t) none w b
  /-- A call has a reply. -/
  | replied (s : DialogueStep) (reply : CallReply) (h : s.reply? = some reply) (w₁ : World σ) :
      Occasion rules w (.step s.task) (some s) w₁ (s.purpose.booking s.cell reply)
  /-- A container is entered. -/
  | entered (a : Action σ) (c : CellId) (j : JobId) (h : w.lookup? j = none) (w₁ : World σ) :
      Occasion rules w a none w₁ (.enter c j)
  /-- A container that is entered is polled from now on. -/
  | restored (identity : JobIdentity) (runId : RunId) (c : CellId) (h : w.shutDown = false)
      (w₁ : World σ) :
      Occasion rules w (.restore identity runId) none w₁ (.supervise c identity.jobId)
  /-- The supervision is shut down without waiting. -/
  | cancelled (w₁ : World σ) : Occasion rules w .cancel none w₁ .cancel

/-- What must hold when a container is entered or polled: it is for that job. -/
def Sound (w : World σ) : Bookkeeping → Prop
  | .supervise c j => w.jobOf? c = some j
  | .enter c j => w.jobOf? c = some j
  | _ => True

/-- One world comes from another one by some acts of bookkeeping, each on one of the given
occasions, while nothing else happens to the books. -/
inductive Booked (P : World σ → Bookkeeping → Prop) : World σ → World σ → Prop where
  /-- Nothing is done to the books. -/
  | keep {w w' : World σ} (h : Keeps w w') : Booked P w w'
  /-- Something is done, and more may be done. -/
  | book {w w₁ w' : World σ} (h : Keeps w w₁) (b : Bookkeeping) (hb : P w₁ b) (hsound : w₁.Sound b)
      (hrest : Booked P (w₁.book b) w') : Booked P w w'

lemma jobOf?_book (w : World σ) (b : Bookkeeping) (c : CellId) :
    (w.book b).jobOf? c = w.jobOf? c := by
  rw [jobOf?, container?, cell?, cells_book]
  rfl

/-- What is done to the books when a call has a reply is about the job of the container. -/
lemma sound_booking {c : CellId} {k : Container} {p : Purpose} {reply : CallReply}
    (hk : w.container? c = some k)
    (hreply : ∀ shown, reply = .ok (.snapshot shown) → shown = k.snapshot) :
    w.Sound (p.booking c reply) := by
  rcases booking_cases c p reply with
    hkeep | ⟨shown, hshown, hsupervise⟩ | ⟨j, shown, -, -, -, hforget⟩
  · rw [hkeep]
    trivial
  · rw [hsupervise, hreply shown hshown, Sound, jobOf?, hk]
    rfl
  · rw [hforget]
    trivial

/-- A call that has a reply leaves its container to the books as it shows it. -/
lemma sound_leave {c : CellId} {cell : Cell} (hc : w.cell? c = some cell) {trigger : Trigger}
    {c' : Container} {events : List EventPayload} {reply : CallReply}
    (h : Exchange rules.policy cell.container trigger (.done ⟨c', events, .reply reply⟩))
    (p : Purpose) (k : σ) :
    (w.leave k c (handOn { cell with container := c' }) events).Sound (p.booking c reply) := by
  refine sound_booking (k := c') ?_ fun shown hshown => ?_
  · have hset := w.container?_set c c (handOn { cell with container := c' }) hc
    rw [if_pos rfl, container_handOn] at hset
    exact hset
  · subst hshown
    exact h.snapshot_eq

/-- In a change nothing is done to the books but on the occasions for it. -/
theorem Attentive.booked (hatt : w.Attentive rules.policy) {a : Action σ} {s : Option DialogueStep}
    (h : Change rules cluster w a s w') : Booked (Occasion rules w a s) w w' := by
  cases h with
  | nothing => exact .keep (.refl w)
  | doomed t task ht hf hd => exact .keep (.drop ht hf)
  | dropped t task ht hf hs => exact .keep (.drop ht hf)
  | begun t task ht hd request hact b a ho =>
    have ha := activity?_eq ht
    rw [hact] at ha
    have hsound : w.Sound b := by cases ho <;> trivial
    have hgoOn : Keeps (w.book b) ((w.book b).goOn t a) :=
      .goOn (activity?_book_of ha b) (fun r hr => by cases hr)
        (Course.begun w request b a ho).supervised?
    exact .book (.refl w) b (.begun t task ht hd request hact b a ho) hsound (.keep hgoOn)
  | moved t a a' ha hm =>
    have hnot : ∀ r, a ≠ .finished r := by
      rintro r rfl
      cases hm
    exact .keep (.goOn ha hnot (Course.moved w a a' hm).supervised?)
  | queued t c e p ha cell hc hl =>
    have hcells : Keeps w { w with
        cells := w.cells.set c { cell with queue := cell.queue ++ [t] } } :=
      .of_tasks rfl rfl rfl rfl fun c' j hj =>
        (jobOf?_set hc { cell with queue := cell.queue ++ [t] } rfl).trans hj
    exact .keep (hcells.trans (.goOn ha (fun r hr => by cases hr) (.inl (by cases p <;> rfl))))
  | asked t task ht hd c stage p hact cell hc hr trigger c' events q next hu k due =>
    have ha := activity?_eq ht
    rw [hact] at ha
    have hexchange := (hatt.always_utterance ha hc hu).head
    have hleave : Keeps w (w.leave k c
        { cell with container := c', holder := stage.locker t cell } events) :=
      .leave hc hexchange.identity k events
    exact .keep (hleave.trans (.goOn ha (fun r hr => by cases hr) (.inl (by cases p <;> rfl))))
  | replied t task ht hd c stage p hact cell hc hr trigger c' events reply hu k =>
    have ha := activity?_eq ht
    rw [hact] at ha
    have hexchange := (hatt.always_utterance ha hc hu).head
    have hleave := Keeps.leave_handOn hc hexchange.identity k events
    have hsound := sound_leave hc hexchange p k
    have hleft : (w.leave k c (handOn { cell with container := c' }) events).activity? t =
      some (.calling c stage p) := ha
    have hgoOn : Keeps ((w.leave k c (handOn { cell with container := c' }) events).book
        (p.booking c reply)) _ :=
      .goOn (activity?_book_of hleft _) (fun r hr => by cases hr)
        (Course.replied w c stage p _ trigger (fits_of_utterance? hu) c' events reply
          hexchange).supervised?
    exact .book hleave _ (.replied ⟨t, p, c, cell.container, trigger, _⟩ reply rfl _) hsound
      (.keep hgoOn)
  | putOff t task ht hd c stage p hact cell hc hr trigger c' events delay e hu k stage' hs =>
    have ha := activity?_eq ht
    rw [hact] at ha
    have hexchange := (hatt.always_utterance ha hc hu).head
    have hleave := Keeps.leave_handOn hc hexchange.identity k events
    exact .keep (hleave.trans (.goOn ha (fun r hr => by cases hr) (.inl (by cases p <;> rfl))))
  | requested request h => exact .keep (.addTask w request)
  | created identity h =>
    refine .book (.addCell w _) _ (.entered _ _ _ h _) ?_ (.keep (.refl _))
    exact w.jobOf?_new _
  | restored identity runId hd h =>
    have hnew := w.jobOf?_new (.restore identity runId)
    refine .book (.addCell w _) _ (.entered _ _ _ h _) hnew
      (.book (.refl _) _ (.restored identity runId _ hd _) ?_ (.keep (.refl _)))
    exact (jobOf?_book _ _ _).trans hnew
  | shared identity runId container h => exact .keep (.addCell w container)
  | cancelled => exact .book (.refl w) .cancel (.cancelled _) trivial (.keep (.refl _))
  | drifted a clock k => exact .keep (.of_tasks rfl rfl rfl rfl fun _ _ hj => hj)

/-! ### Tidy books -/

/-- The books name one task for a job at most, and every task in them supervises a container of
that job and was not told to end, unless it has ended. -/
structure Tidy (w : World σ) : Prop where
  /-- A job has one task. -/
  keys : (w.supervisors.map (·.1)).Nodup
  /-- The task is the right one. -/
  entries : ∀ j t, (j, t) ∈ w.supervisors → ∃ task, w.task? t = some task ∧
    (task.isFinished = true ∨
      task.detached = false ∧ ∃ c, task.activity.supervised? = some c ∧ w.jobOf? c = some j)
  /-- The containers that are supervised are there. -/
  places : ∀ t task c, w.task? t = some task → task.activity.supervised? = some c →
    ∃ j, w.jobOf? c = some j

lemma tidy_empty (state : σ) (bus : EventBus ContainerEvent) : (empty state bus).Tidy where
  keys := List.nodup_nil
  entries j t h := by cases h
  places t task c h := by simp [task?, empty] at h

lemma Tidy.keeps (h : w.Tidy) (hk : Keeps w w') : w'.Tidy where
  keys := by
    rw [hk.supervisors]
    exact h.keys
  entries j t hmem := by
    rw [hk.supervisors] at hmem
    obtain ⟨task, ht, hrest⟩ := h.entries j t hmem
    obtain ⟨task', ht', hdetached, hfinished, hsupervised⟩ := hk.tasks t task ht
    refine ⟨task', ht', ?_⟩
    rcases hrest with hf | ⟨hd, c, hs, hj⟩
    · exact .inl (hfinished hf)
    · rcases hsupervised with hs' | hf
      · exact .inr ⟨hdetached.trans hd, c, hs'.trans hs, hk.jobs c j hj⟩
      · exact .inl hf
  places t task' c ht' hs' := by
    cases ht : w.task? t with
    | none =>
      rw [hk.fresh t task' ht' ht] at hs'
      cases hs'
    | some task =>
      obtain ⟨task'', ht'', -, -, hsupervised⟩ := hk.tasks t task ht
      cases ht'.symm.trans ht''
      rcases hsupervised with hs | hf
      · obtain ⟨j, hj⟩ := h.places t task c ht (hs.symm.trans hs')
        exact ⟨j, hk.jobs c j hj⟩
      · cases ha : task'.activity with
        | finished r =>
          rw [ha] at hs'
          cases hs'
        | _ => simp [Task.isFinished, ha] at hf

lemma Tidy.filter (h : w.Tidy) (p : JobId × TaskId → Bool) :
    ({ w with supervisors := w.supervisors.filter p } : World σ).Tidy where
  keys := h.keys.sublist (List.filter_sublist.map _)
  entries j t hmem := h.entries j t (List.mem_filter.1 hmem).1
  places := h.places

lemma task?_detach (w : World σ) (s i : TaskId) :
    (w.detach s).task? i =
      if s = i then (w.task? i).map fun task => { task with detached := true } else w.task? i := by
  simp only [detach, modifyTask, task?, List.getElem?_modify]
  split <;> simp

lemma task?_abort (w : World σ) (s i : TaskId) :
    (w.abort s).task? i =
      if s = i then (w.task? i).map fun task => { task with aborted := true } else w.task? i := by
  simp only [abort, modifyTask, task?, List.getElem?_modify]
  split <;> simp

lemma Tidy.detach (h : w.Tidy) {s : TaskId}
    (hs : ∀ j, (j, s) ∈ w.supervisors → ∃ task, w.task? s = some task ∧ task.isFinished = true) :
    (w.detach s).Tidy where
  keys := h.keys
  entries j t hmem := by
    obtain ⟨task, ht, hrest⟩ := h.entries j t hmem
    rw [task?_detach, ht]
    by_cases hst : s = t
    · subst hst
      obtain ⟨task', ht', hf⟩ := hs j hmem
      cases ht.symm.trans ht'
      exact ⟨{ task with detached := true }, by simp, .inl hf⟩
    · exact ⟨task, by rw [if_neg hst], hrest⟩
  places t task' c ht' hs' := by
    rw [task?_detach] at ht'
    split at ht'
    · obtain ⟨task, ht, rfl⟩ := Option.map_eq_some_iff.1 ht'
      exact h.places t task c ht hs'
    · exact h.places t task' c ht' hs'

lemma Tidy.abort (h : w.Tidy) (s : TaskId) : (w.abort s).Tidy where
  keys := h.keys
  entries j t hmem := by
    obtain ⟨task, ht, hrest⟩ := h.entries j t hmem
    rw [task?_abort, ht]
    by_cases hst : s = t
    · exact ⟨{ task with aborted := true }, by simp [hst], hrest⟩
    · exact ⟨task, by rw [if_neg hst], hrest⟩
  places t task' c ht' hs' := by
    rw [task?_abort] at ht'
    split at ht'
    · obtain ⟨task, ht, rfl⟩ := Option.map_eq_some_iff.1 ht'
      exact h.places t task c ht hs'
    · exact h.places t task' c ht' hs'

/-- The task of a job, once it is taken out of the books, is in them for no other job, unless
it has ended. -/
lemma Tidy.finished_of_mem_filter (h : w.Tidy) {j j' : JobId} {s : TaskId}
    (hs : w.supervisors.lookup j = some s)
    (hmem : (j', s) ∈ w.supervisors.filter fun e => e.1 ≠ j) :
    ∃ task, w.task? s = some task ∧ task.isFinished = true := by
  obtain ⟨hmem, hne⟩ := List.mem_filter.1 hmem
  obtain ⟨task, ht, hrest⟩ := h.entries j s (mem_of_lookup hs)
  obtain ⟨task', ht', hrest'⟩ := h.entries j' s hmem
  cases ht.symm.trans ht'
  refine ⟨task, ht, ?_⟩
  rcases hrest with hf | ⟨-, c, hc, hj⟩
  · exact hf
  rcases hrest' with hf | ⟨-, c', hc', hj'⟩
  · exact hf
  cases hc.symm.trans hc'
  cases hj.symm.trans hj'
  simp at hne

lemma Tidy.book (h : w.Tidy) {b : Bookkeeping} (hsound : w.Sound b) : (w.book b).Tidy := by
  cases b with
  | keep => exact h
  | supervise c j =>
    -- the new task is entered for a job that has no other task left
    have hprune : w.prune.Tidy := h.filter _
    rcases w.book_supervise_cases c j with hbook | ⟨hnone, hbook⟩ <;> rw [hbook]
    · exact hprune
    · refine ⟨?_, fun j' t hmem => ?_, fun t task c' ht hs => ?_⟩
      · rw [List.map_cons, List.nodup_cons]
        refine ⟨fun hj => ?_, hprune.keys⟩
        obtain ⟨e, he, rfl⟩ := List.mem_map.1 hj
        exact absurd rfl (bne_iff_ne.1 (List.lookup_eq_none_iff.1 hnone e he))
      · rcases List.mem_cons.1 hmem with he | hmem
        · cases he
          refine ⟨{ activity := .summoned c }, ?_, .inr ⟨rfl, c, rfl, hsound⟩⟩
          simp [task?]
        · obtain ⟨task, ht, hrest⟩ := hprune.entries j' t hmem
          have hlt : t < w.tasks.length := (List.getElem?_eq_some_iff.1 ht).1
          refine ⟨task, ?_, hrest⟩
          rw [task?, List.getElem?_append_left hlt]
          exact ht
      · rw [task?] at ht
        by_cases hi : t < w.tasks.length
        · rw [List.getElem?_append_left hi] at ht
          exact h.places t task c' ht hs
        · rw [List.getElem?_append_right (Nat.le_of_not_lt hi), List.getElem?_singleton] at ht
          split at ht
          · cases ht
            cases hs
            exact ⟨j, hsound⟩
          · cases ht
  | forget j =>
    have hfilter := h.filter fun e => e.1 ≠ j
    have hregistry : ({ w with
        registry := w.registry.filter fun r => r.1 ≠ j,
        supervisors := w.supervisors.filter fun s => s.1 ≠ j } : World σ).Tidy :=
      ⟨hfilter.keys, hfilter.entries, hfilter.places⟩
    cases hs : w.supervisors.lookup j with
    | none =>
      rw [book_forget_of_none hs]
      exact hregistry
    | some s =>
      rw [book_forget_of_some hs]
      exact (hregistry.detach fun j' hmem => h.finished_of_mem_filter hs hmem).abort s
  | dismiss j =>
    cases hs : w.supervisors.lookup j with
    | none =>
      rw [book_dismiss_of_none hs]
      exact h.filter _
    | some s =>
      rw [book_dismiss_of_some hs]
      exact (h.filter _).detach fun j' hmem => h.finished_of_mem_filter hs hmem
  | take j => exact h.filter _
  | close => exact ⟨List.nodup_nil, fun j t hmem => (by cases hmem), h.places⟩
  | cancel => exact ⟨h.keys, h.entries, h.places⟩
  | enter c j => exact ⟨h.keys, h.entries, h.places⟩

lemma Tidy.booked (h : w.Tidy) {P : World σ → Bookkeeping → Prop}
    (hb : Booked P w w') : w'.Tidy := by
  induction hb with
  | keep hk => exact h.keeps hk
  | book hk b _ hsound _ ih => exact ih ((h.keeps hk).book hsound)

/-- The books are tidy throughout every run. -/
lemma tidy_run (rules : Rules) (cluster : Cluster σ) (state : σ) (bus : EventBus ContainerEvent)
    (actions : List (Action σ)) : ((empty state bus).play rules cluster actions).Tidy := by
  induction actions using List.reverseRecOn with
  | nil => exact tidy_empty state bus
  | append_singleton actions a ih =>
    have hatt := attentive_run rules cluster state bus actions
    rw [play_concat]
    exact ih.booked (hatt.booked (act_change rules cluster _ a))

end World

end JobSupervision.Supervision
