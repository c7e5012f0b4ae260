/-
# Attention

A task that waits for an answer has the lock of the container, so that nobody else changes the
container meanwhile.  Hence whatever is said in a run fits the container at that moment: every
dialogue step of a run is in the list of dialogue steps (`exchange_of_mem_history`).  A container
changes through such dialogue steps alone, which is how later files follow one container through a
run. -/
import JobSupervision.Proofs.Supervision.Frame

namespace JobSupervision.Supervision

variable {σ : Type} {rules : Rules} {cluster : Cluster σ} {w w' : World σ}

/-- What a snapshot shows is the container as the dialogue step leaves it. -/
lemma DialogueStep.snapshot_of_reply? {policy : RetryPolicy} {s : DialogueStep}
    (h : Exchange policy s.before s.trigger s.dialogue) {shown : Snapshot}
    (hs : s.reply? = some (.ok (.snapshot shown))) :
    shown = s.after.snapshot := by
  obtain ⟨task, purpose, cell, before, trigger, dialogue⟩ := s
  dsimp only at h
  cases h <;> cases hs <;> rfl

/-- Whether a task waits for an answer about a container. -/
def Activity.Asks (c : CellId) (q : Query) (next : q.Answer → Dialogue Turn) (a : Activity) :
    Prop :=
  ∃ due p, a = .calling c (.asking q next due) p

lemma Opening.not_asks {request : Request} {b : Bookkeeping} {a : Activity}
    (h : Opening rules w request b a) (c : CellId) (q : Query) (next : q.Answer → Dialogue Turn) :
    ¬ a.Asks c q next := by
  rintro ⟨due, p, rfl⟩
  cases h

lemma Moving.not_asks {a a' : Activity} (h : Moving rules w a a') (c : CellId) (q : Query)
    (next : q.Answer → Dialogue Turn) : ¬ a'.Asks c q next := by
  rintro ⟨due, p, rfl⟩
  cases h

namespace World

/-- If a task waits for an answer, it has the lock of the container, and what it says next fits
the container, whatever the answer is. -/
def AttentiveTask (policy : RetryPolicy) (w : World σ) (t : TaskId) : Prop :=
  ∀ c q next a, w.activity? t = some a → a.Asks c q next →
    ∃ cell, w.cell? c = some cell ∧ cell.holder = some t ∧
      ∀ answer, (next answer).Always (Exchange policy) cell.container (.answer q answer)

/-- Whoever waits for an answer has the lock. -/
def Attentive (policy : RetryPolicy) (w : World σ) : Prop := ∀ t, w.AttentiveTask policy t

lemma activity?_eq_none (hw : w.tasks = []) (t : TaskId) : w.activity? t = none := by
  simp [activity?, task?, hw]

lemma attentive_of_tasks (policy : RetryPolicy) (hw : w.tasks = []) : w.Attentive policy := by
  intro t c q next a h
  rw [activity?_eq_none hw] at h
  cases h

namespace Attentive

variable {policy : RetryPolicy}

/-- Nobody else waits for an answer while a task talks. -/
lemma alone (h : w.Attentive policy) {t i : TaskId} {c : CellId} {cell : Cell}
    {stage : CallStage} {p : Purpose} (ha : w.activity? t = some (.calling c stage p))
    (hc : w.cell? c = some cell) (hr : w.callReady t c stage = true) {u : Trigger × Dialogue Turn}
    (hu : w.utterance? rules cluster cell stage = some u) {q : Query}
    {next : q.Answer → Dialogue Turn} {a : Activity} (hi : w.activity? i = some a)
    (hasks : a.Asks c q next) : i = t := by
  obtain ⟨cell', hc', hl, -⟩ := h i c q next a hi hasks
  rw [hc] at hc'
  cases hc'
  cases stage with
  | arriving e => simp [utterance?, hl] at hu
  | queued e => simpa [callReady, hc, hl] using hr
  | asking q' next' due =>
    obtain ⟨cell', hc', hl', -⟩ := h t c q' next' _ ha ⟨due, p, rfl⟩
    rw [hc] at hc'
    cases hc'
    rw [hl] at hl'
    exact Option.some.inj hl'
  | resting e due => cases hu

lemma locker_eq (h : w.Attentive policy) {t : TaskId} {c : CellId} {cell : Cell}
    {stage : CallStage} {p : Purpose} (ha : w.activity? t = some (.calling c stage p))
    (hc : w.cell? c = some cell) : stage.locker t cell = some t := by
  cases stage with
  | asking q next due =>
    obtain ⟨cell', hc', hl, -⟩ := h t c q next _ ha ⟨due, p, rfl⟩
    rw [hc] at hc'
    cases hc'
    exact hl
  | _ => rfl

/-- What a task says fits the container. -/
lemma always_utterance (h : w.Attentive rules.policy) {t : TaskId} {c : CellId} {cell : Cell}
    {stage : CallStage} {p : Purpose} (ha : w.activity? t = some (.calling c stage p))
    (hc : w.cell? c = some cell) {trigger : Trigger} {d : Dialogue Turn}
    (hu : w.utterance? rules cluster cell stage = some (trigger, d)) :
    d.Always (Exchange rules.policy) cell.container trigger := by
  cases stage with
  | arriving e =>
    simp only [utterance?] at hu
    split at hu
    · cases hu
      exact GuardedOperation.always_hold cell.container e
    · cases hu
  | queued e =>
    cases hu
    exact GuardedOperation.always_hold cell.container e
  | asking q next due =>
    cases hu
    obtain ⟨cell', hc', -, halways⟩ := h t c q next _ ha ⟨due, p, rfl⟩
    rw [hc] at hc'
    cases hc'
    exact halways _
  | resting e due => cases hu

end Attentive

/-! ### Parts of changes -/

namespace AttentiveTask

variable {policy : RetryPolicy} {i t : TaskId}

lemma of_not_asks {a : Activity} (ha : ∀ a', w.activity? t = some a' → a' = a)
    (hasks : ∀ c q next, ¬ a.Asks c q next) : w.AttentiveTask policy t := by
  intro c q next a' ha' hasks'
  rw [ha a' ha'] at hasks'
  exact absurd hasks' (hasks c q next)

lemma goOn (h : w.AttentiveTask policy i) (hne : i ≠ t) (a : Activity) :
    (w.goOn t a).AttentiveTask policy i := by
  intro c q next a' ha'
  rw [activity?_goOn_of_ne hne] at ha'
  exact h c q next a' ha'

lemma book (h : w.AttentiveTask policy i) (b : Bookkeeping) :
    (w.book b).AttentiveTask policy i := by
  intro c q next a ha hasks
  rcases activity?_book ha with ha | ⟨-, c', j, -, rfl⟩
  · obtain ⟨cell, hc, hrest⟩ := h c q next a ha hasks
    exact ⟨cell, by rwa [cell?, cells_book], hrest⟩
  · obtain ⟨due, p, hasks⟩ := hasks
    cases hasks

lemma addTask (h : w.AttentiveTask policy i) (request : Request) :
    (w.addTask (.fresh request)).1.AttentiveTask policy i := by
  intro c q next a ha hasks
  rcases activity?_addTask ha with ha | ⟨-, rfl⟩
  · exact h c q next a ha hasks
  · obtain ⟨due, p, hasks⟩ := hasks
    cases hasks

lemma addCell (h : w.AttentiveTask policy i) (container : Container) :
    (w.addCell container).1.AttentiveTask policy i := by
  intro c q next a ha hasks
  obtain ⟨cell, hc, hrest⟩ := h c q next a ha hasks
  have hlt : c < w.cells.length := (List.getElem?_eq_some_iff.1 hc).1
  refine ⟨cell, ?_, hrest⟩
  rwa [cell?, World.addCell, List.getElem?_append_left hlt]

lemma enter (h : w.AttentiveTask policy i) (container : Container) :
    (w.enter container).AttentiveTask policy i := h.addCell container

lemma setQueue (h : w.AttentiveTask policy i) {c : CellId} {cell : Cell}
    (hc : w.cell? c = some cell) (queue : List TaskId) :
    ({ w with cells := w.cells.set c { cell with queue := queue } } : World σ).AttentiveTask
      policy i := by
  intro c' q next a ha hasks
  obtain ⟨cell', hc', hrest⟩ := h c' q next a ha hasks
  have hlt : c < w.cells.length := (List.getElem?_eq_some_iff.1 hc).1
  by_cases hcc : c = c'
  · subst hcc
    rw [hc] at hc'
    cases hc'
    exact ⟨{ cell with queue := queue }, by simp [cell?, hlt], hrest⟩
  · exact ⟨cell', by rwa [cell?, List.getElem?_set_ne hcc], hrest⟩

lemma drop (h : w.AttentiveTask policy i) (t : TaskId) : (w.drop t).AttentiveTask policy i := by
  by_cases hne : i = t
  · subst hne
    refine of_not_asks (fun a' ha' => activity?_goOn_self ha') ?_
    rintro c q next ⟨due, p, hasks⟩
    cases hasks
  · intro c q next a ha hasks
    rw [activity?_drop_of_ne hne] at ha
    obtain ⟨cell, hc, hl, halways⟩ := h c q next a ha hasks
    obtain ⟨queue, hc'⟩ := cell?_drop hc hl hne
    exact ⟨_, hc', hl, halways⟩

end AttentiveTask

/-- A task that talks leaves those alone who ask. -/
lemma Attentive.leave {policy : RetryPolicy} (h : w.Attentive policy) {t : TaskId} {c : CellId}
    {cell : Cell} {stage : CallStage} {p : Purpose}
    (ha : w.activity? t = some (.calling c stage p)) (hc : w.cell? c = some cell)
    (hr : w.callReady t c stage = true) {u : Trigger × Dialogue Turn}
    (hu : w.utterance? rules cluster cell stage = some u) (k : σ) (cell' : Cell)
    (events : List EventPayload) {i : TaskId} (hne : i ≠ t) :
    (w.leave k c cell' events).AttentiveTask policy i := by
  intro c' q next a hi hasks
  have hcc : c ≠ c' := by
    rintro rfl
    exact hne (h.alone ha hc hr hu hi hasks)
  obtain ⟨cell'', hc'', hrest⟩ := h i c' q next a hi hasks
  exact ⟨cell'', by rwa [cell?, cells_leave, List.getElem?_set_ne hcc], hrest⟩

lemma attentive_goOn {policy : RetryPolicy} {t : TaskId}
    (h : ∀ i, i ≠ t → w.AttentiveTask policy i) {a : Activity}
    (hasks : ∀ c q next, ¬ a.Asks c q next) : (w.goOn t a).Attentive policy := by
  intro i
  by_cases hne : i = t
  · subst hne
    exact .of_not_asks (fun a' ha' => activity?_goOn_self ha') hasks
  · exact (h i hne).goOn hne a

lemma sequel_not_asks (c : CellId) (p : Purpose) (reply : CallReply) (c' : CellId) (q : Query)
    (next : q.Answer → Dialogue Turn) : ¬ (w.sequel rules c p reply).Asks c' q next := by
  rintro ⟨due, p', h⟩
  rcases sequel_cases rules w c p reply with ⟨r, hr⟩ | hr | ⟨due', hr⟩ <;> cases hr.symm.trans h

/-! ### Attention in runs -/

/-- Whatever happens, whoever waits for an answer has the lock. -/
lemma Attentive.change (h : w.Attentive rules.policy) {a : Action σ} {s : Option DialogueStep}
    (hc : Change rules cluster w a s w') : w'.Attentive rules.policy := by
  cases hc with
  | nothing => exact h
  | doomed t => exact fun i => (h i).drop t
  | dropped t => exact fun i => (h i).drop t
  | begun t task ht hd request hact b a ho =>
    exact attentive_goOn (fun i _ => (h i).book b) ho.not_asks
  | moved t a a' ha hm => exact attentive_goOn (fun i _ => h i) hm.not_asks
  | queued t c e p ha cell hc hl =>
    refine attentive_goOn (fun i _ => (h i).setQueue hc _) ?_
    rintro c' q next ⟨due, p', hasks⟩
    cases hasks
  | asked t task ht hd c stage p hact cell hc hr trigger c' events q next hu k due =>
    have ha := activity?_eq ht
    rw [hact] at ha
    intro i
    by_cases hne : i = t
    -- the task that asks keeps the lock, and all it may say next was fitting before
    · subst hne
      intro c'' q' next' a' ha' hasks
      rw [activity?_goOn_self ha'] at hasks
      obtain ⟨due', p', hasks⟩ := hasks
      cases hasks
      have hlt : c < w.cells.length := (List.getElem?_eq_some_iff.1 hc).1
      have halways := h.always_utterance ha hc hu
      exact ⟨_, by rw [cell?, cells_goOn, cells_leave, List.getElem?_set_self hlt],
        h.locker_eq ha hc, halways.2⟩
    · exact (h.leave ha hc hr hu k _ events hne).goOn hne _
  | replied t task ht hd c stage p hact cell hc hr trigger c' events reply hu k =>
    have ha := activity?_eq ht
    rw [hact] at ha
    exact attentive_goOn (fun i hne => (h.leave ha hc hr hu k _ events hne).book _)
      (sequel_not_asks c p reply)
  | putOff t task ht hd c stage p hact cell hc hr trigger c' events delay e hu k stage' hs =>
    have ha := activity?_eq ht
    rw [hact] at ha
    refine attentive_goOn (fun i hne => h.leave ha hc hr hu k _ events hne) ?_
    rintro c'' q next ⟨due, p', hasks⟩
    rcases hs with rfl | ⟨due', rfl⟩ <;> cases hasks
  | requested request => exact fun i => (h i).addTask request
  | created identity => exact fun i => (h i).enter _
  | restored identity runId => exact fun i => ((h i).enter _).book _
  | shared identity runId container => exact fun i => (h i).addCell container
  | cancelled => exact h
  | drifted a clock k => exact h

lemma attentive_play (rules : Rules) (cluster : Cluster σ) {w : World σ}
    (h : w.Attentive rules.policy) (actions : List (Action σ)) :
    (w.play rules cluster actions).Attentive rules.policy := by
  induction actions generalizing w with
  | nil => exact h
  | cons a rest ih => exact ih (h.change (act_change rules cluster w a))

lemma attentive_run (rules : Rules) (cluster : Cluster σ) (state : σ)
    (bus : EventBus ContainerEvent) (actions : List (Action σ)) :
    ((empty state bus).play rules cluster actions).Attentive rules.policy :=
  attentive_play rules cluster (attentive_of_tasks rules.policy rfl) actions

/-- The dialogue step in a change is in the list of dialogue steps. -/
lemma Attentive.exchange (h : w.Attentive rules.policy) {a : Action σ} {s : DialogueStep}
    (hc : Change rules cluster w a (some s) w') :
    Exchange rules.policy s.before s.trigger s.dialogue := by
  cases hc with
  | asked t task ht hd c stage p hact cell hc hr trigger c' events q next hu k due =>
    have ha := activity?_eq ht
    rw [hact] at ha
    exact (h.always_utterance ha hc hu).head
  | replied t task ht hd c stage p hact cell hc hr trigger c' events reply hu k =>
    have ha := activity?_eq ht
    rw [hact] at ha
    exact (h.always_utterance ha hc hu).head
  | putOff t task ht hd c stage p hact cell hc hr trigger c' events delay e hu k stage' hs =>
    have ha := activity?_eq ht
    rw [hact] at ha
    exact (h.always_utterance ha hc hu).head

/-- Whatever is said in a run is in the list of dialogue steps. -/
theorem exchange_of_mem_history (h : w.Attentive rules.policy) {actions : List (Action σ)}
    {s : DialogueStep} (hs : s ∈ w.history rules cluster actions) :
    Exchange rules.policy s.before s.trigger s.dialogue := by
  induction actions generalizing w with
  | nil => cases hs
  | cons a rest ih =>
    rw [history, List.mem_append] at hs
    rcases hs with hs | hs
    · have hc := act_change rules cluster w a
      rw [Option.mem_toList.1 hs] at hc
      exact h.exchange hc
    · exact ih (h.change (act_change rules cluster w a)) hs

end World

end JobSupervision.Supervision
