/-
# Courses of tasks

What a single task does in a change (`Progress`) and can go over to (`Course`), and that every
task of a run has come that way from what it was started with (`course_of_activity?`).
-/
import JobSupervision.Proofs.Supervision.History
import Mathlib.Logic.Relation

namespace JobSupervision.Supervision

variable {σ : Type} {rules : Rules} {cluster : Cluster σ} {w w' : World σ}

/-- Whether a trigger is the one that a call waits for. -/
def CallStage.Fits : CallStage → Trigger → Prop
  | .arriving e, .operation e' => e' = e
  | .queued e, .operation e' => e' = e
  | .asking q _ _, .answer q' _ => q' = q
  | _, _ => False

lemma CallStage.operation?_of_fits {stage : CallStage} {e : GuardedOperation}
    (h : stage.Fits (.operation e)) : stage.operation? = some e := by
  cases stage with
  | arriving e' => exact congrArg some (Eq.symm h)
  | queued e' => exact congrArg some (Eq.symm h)
  | asking => exact h.elim
  | resting => exact h.elim

/-- Whether a task may be started with an activity. -/
def Activity.isStart : Activity → Bool
  | .fresh request => request.isOffered
  | .summoned _ => true
  | _ => false

open World

/-- What a task goes over to in one change, in worlds with clusters in `σ`. -/
inductive Course (σ : Type) (rules : Rules) : Activity → Activity → Prop where
  /-- It is dropped. -/
  | dropped (a : Activity) (h : ∀ r, a ≠ .finished r) :
      Course σ rules a (.finished (.ok .nothing))
  /-- It begins its request. -/
  | begun (w : World σ) (request : Request) (b : Bookkeeping) (a : Activity)
      (ho : Opening rules w request b a) : Course σ rules (.fresh request) a
  /-- It goes on. -/
  | moved (w : World σ) (a a' : Activity) (hm : Moving rules w a a') : Course σ rules a a'
  /-- It finds the lock taken. -/
  | queued (c : CellId) (e : GuardedOperation) (p : Purpose) :
      Course σ rules (.calling c (.arriving e) p) (.calling c (.queued e) p)
  /-- It talks and asks. -/
  | asked (c : CellId) (stage : CallStage) (p : Purpose) (k : Container) (trigger : Trigger)
      (htrigger : stage.Fits trigger) (k' : Container) (events : List EventPayload)
      (q : Query) (next)
      (hs : Exchange rules.policy k trigger (.ask k' events q next)) (due : Nat) :
      Course σ rules (.calling c stage p) (.calling c (.asking q next due) p)
  /-- It talks and comes to the end of its call. -/
  | replied (w : World σ) (c : CellId) (stage : CallStage) (p : Purpose) (k : Container)
      (trigger : Trigger) (htrigger : stage.Fits trigger) (k' : Container)
      (events : List EventPayload) (reply : CallReply)
      (hs : Exchange rules.policy k trigger (.done ⟨k', events, .reply reply⟩)) :
      Course σ rules (.calling c stage p) (w.sequel rules c p reply)
  /-- It talks, lets the lock go, and is to come back. -/
  | putOff (c : CellId) (stage : CallStage) (p : Purpose) (k : Container) (trigger : Trigger)
      (htrigger : stage.Fits trigger) (k' : Container) (events : List EventPayload) (delay : Nat)
      (e : GuardedOperation)
      (hs : Exchange rules.policy k trigger (.done ⟨k', events, .again delay e⟩))
      (stage' : CallStage) (hst : stage' = .arriving e ∨ ∃ due, stage' = .resting e due) :
      Course σ rules (.calling c stage p) (.calling c stage' p)

lemma Course.not_finished (r : TaskResult) (x : Activity) : ¬ Course σ rules (.finished r) x := by
  intro h
  cases h with
  | dropped a hnot => exact hnot r rfl
  | moved w a a' hm => cases hm

lemma fits_of_utterance? {cell : Cell} {stage : CallStage} {trigger : Trigger} {d : Dialogue Turn}
    (hu : w.utterance? rules cluster cell stage = some (trigger, d)) : stage.Fits trigger := by
  cases stage with
  | arriving e =>
    simp only [utterance?] at hu
    split at hu
    · cases hu
      exact rfl
    · cases hu
  | queued e =>
    cases hu
    exact rfl
  | asking q next due =>
    cases hu
    exact rfl
  | resting e due => cases hu

namespace World

lemma activity?_book_goOn {b : Bookkeeping} {t i : TaskId} {a x x' : Activity}
    (hx : w.activity? i = some x) (h : ((w.book b).goOn t a).activity? i = some x') :
    i ≠ t ∧ x' = x ∨ i = t ∧ x' = a := by
  by_cases hi : i = t
  · subst hi
    exact .inr ⟨rfl, activity?_goOn_self h⟩
  · rw [activity?_goOn_of_ne hi] at h
    rcases activity?_book h with h | ⟨rfl, -⟩
    · exact .inl ⟨hi, Option.some.inj (h.symm.trans hx)⟩
    · exact absurd (lt_of_activity? hx) (Nat.lt_irrefl _)

lemma activity?_goOn_cases {t i : TaskId} {a x x' : Activity} (hx : w.activity? i = some x)
    (h : (w.goOn t a).activity? i = some x') : i ≠ t ∧ x' = x ∨ i = t ∧ x' = a :=
  activity?_book_goOn (b := .keep) hx h

lemma activity?_addTask_of_lt {i : TaskId} (h : i < w.tasks.length) (a : Activity) :
    (w.addTask a).1.activity? i = w.activity? i := by
  simp only [addTask, activity?, task?, List.getElem?_append_left h]

/-! ### One task in a change -/

lemma length_tasks_book_le (w : World σ) (b : Bookkeeping) :
    w.tasks.length ≤ (w.book b).tasks.length := by
  cases b with
  | supervise c j =>
    simp only [book, supervise]
    split
    · exact Nat.le_refl _
    · simp [addTask, prune]
  | forget j =>
    cases hs : w.supervisors.lookup j with
    | none => exact Nat.le_of_eq (by rw [book_forget_of_none hs])
    | some s => simp [book_forget_of_some hs, abort, detach, modifyTask]
  | dismiss j =>
    cases hs : w.supervisors.lookup j with
    | none => exact Nat.le_of_eq (by rw [book_dismiss_of_none hs])
    | some s => simp [book_dismiss_of_some hs, detach, modifyTask]
  | _ => exact Nat.le_refl _

lemma activity?_book_of {t : TaskId} {x : Activity} (h : w.activity? t = some x)
    (b : Bookkeeping) : (w.book b).activity? t = some x := by
  have hlt := lt_of_activity? h
  obtain ⟨x', hx'⟩ : ∃ x', (w.book b).activity? t = some x' := by
    simp [activity?, task?, Nat.lt_of_lt_of_le hlt (w.length_tasks_book_le b)]
  rcases activity?_book hx' with h' | ⟨rfl, -⟩
  · cases h.symm.trans h'
    exact hx'
  · exact absurd hlt (Nat.lt_irrefl _)

/-- What one task does in a change, with the step of dialogue in it and the world afterwards. -/
inductive Progress (rules : Rules) (w : World σ) (t : TaskId) :
    Option DialogueStep → World σ → Activity → Activity → Prop where
  /-- Nothing. -/
  | idle (s : Option DialogueStep) (w' : World σ) (x : Activity)
      (hs : ∀ s', s = some s' → s'.task ≠ t) : Progress rules w t s w' x x
  /-- It is dropped. -/
  | dropped (w' : World σ) (x : Activity) (hx : ∀ r, x ≠ .finished r) :
      Progress rules w t none w' x (.finished (.ok .nothing))
  /-- It begins its request. -/
  | begun (request : Request) (b : Bookkeeping) (x' : Activity)
      (ho : Opening rules w request b x') :
      Progress rules w t none ((w.book b).goOn t x') (.fresh request) x'
  /-- It goes on. -/
  | moved (w' : World σ) (x x' : Activity) (hm : Moving rules w x x') :
      Progress rules w t none w' x x'
  /-- It finds the lock taken. -/
  | queued (w' : World σ) (c : CellId) (e : GuardedOperation) (p : Purpose) :
      Progress rules w t none w' (.calling c (.arriving e) p) (.calling c (.queued e) p)
  /-- It talks and asks. -/
  | asked (s : DialogueStep) (ht : s.task = t) (w' : World σ) (stage : CallStage)
      (htrigger : stage.Fits s.trigger) (k : Container) (events : List EventPayload)
      (q : Query) (next)
      (hd : s.dialogue = .ask k events q next) (due : Nat) :
      Progress rules w t (some s) w' (.calling s.cell stage s.purpose)
        (.calling s.cell (.asking q next due) s.purpose)
  /-- It talks and comes to the end of its call. -/
  | replied (s : DialogueStep) (ht : s.task = t) (w' : World σ) (stage : CallStage)
      (htrigger : stage.Fits s.trigger) (k : Container) (events : List EventPayload)
      (reply : CallReply)
      (hd : s.dialogue = .done ⟨k, events, .reply reply⟩) :
      Progress rules w t (some s) w' (.calling s.cell stage s.purpose)
        (w.sequel rules s.cell s.purpose reply)
  /-- It talks, lets the lock go, and is to come back. -/
  | putOff (s : DialogueStep) (ht : s.task = t) (w' : World σ) (stage : CallStage)
      (htrigger : stage.Fits s.trigger) (k : Container) (events : List EventPayload) (delay : Nat)
      (e : GuardedOperation) (hd : s.dialogue = .done ⟨k, events, .again delay e⟩)
      (stage' : CallStage)
      (hst : stage' = .arriving e ∨ ∃ due, stage' = .resting e due) :
      Progress rules w t (some s) w' (.calling s.cell stage s.purpose)
        (.calling s.cell stage' s.purpose)

/-- A task that was there makes progress in a change. -/
lemma progress_of_change {a : Action σ} {s : Option DialogueStep}
    (h : Change rules cluster w a s w') {t : TaskId} {x x' : Activity}
    (hx : w.activity? t = some x) (hx' : w'.activity? t = some x') :
    Progress rules w t s w' x x' := by
  have hlt := lt_of_activity? hx
  have hidle : ∀ {s : Option DialogueStep}, x' = x → (∀ s', s = some s' → s'.task ≠ t) →
      Progress rules w t s w' x x' := by
    rintro s rfl hs
    exact .idle s w' x' hs
  have hstays : w'.activity? t = w.activity? t → x' = x := fun he =>
    Option.some.inj (hx'.symm.trans (he.trans hx))
  have hnone : ∀ s', (none : Option DialogueStep) = some s' → s'.task ≠ t :=
    fun s' hs' => by cases hs'
  -- somebody else talks
  have hother : ∀ {i : TaskId} {s₀ : DialogueStep}, t ≠ i → s₀.task = i →
      ∀ s', some s₀ = some s' → s'.task ≠ t := by
    rintro i s₀ hne rfl s' hs'
    cases hs'
    exact hne.symm
  have hdrop : ∀ {i : TaskId} {task : Task}, w.task? i = some task → task.isFinished = false →
      (w.drop i).activity? t = some x' → Progress rules w t none w' x x' := by
    intro i task ht hf hi
    by_cases hti : t = i
    · subst hti
      rw [activity?_goOn_self hi]
      cases (activity?_eq ht).symm.trans hx
      refine .dropped w' _ fun r hr => ?_
      simp [Task.isFinished, hr] at hf
    · rw [activity?_drop_of_ne hti] at hi
      exact hidle (Option.some.inj (hi.symm.trans hx)) hnone
  cases h with
  | nothing => exact hidle (hstays rfl) hnone
  | doomed i task ht hf hd => exact hdrop ht hf hx'
  | dropped i task ht hf hs => exact hdrop ht hf hx'
  | begun i task ht hd request hact b a ho =>
    rcases activity?_book_goOn hx hx' with ⟨-, he⟩ | ⟨rfl, rfl⟩
    · exact hidle he hnone
    · rw [activity?_eq ht, hact] at hx
      cases hx
      exact .begun request b x' ho
  | moved i a a' ha hm =>
    rcases activity?_goOn_cases hx hx' with ⟨-, he⟩ | ⟨rfl, rfl⟩
    · exact hidle he hnone
    · cases ha.symm.trans hx
      exact .moved _ x x' hm
  | queued i c e p ha cell hc hl =>
    rcases activity?_goOn_cases hx hx' with ⟨-, he⟩ | ⟨rfl, rfl⟩
    · exact hidle he hnone
    · cases ha.symm.trans hx
      exact .queued _ c e p
  | asked i task ht hd c stage p hact cell hc hr trigger k events q next hu k' due =>
    rcases activity?_goOn_cases hx hx' with ⟨hne, he⟩ | ⟨rfl, rfl⟩
    · exact hidle he (hother hne rfl)
    · rw [activity?_eq ht, hact] at hx
      cases hx
      exact .asked ⟨t, p, c, _, trigger, _⟩ rfl _ stage (fits_of_utterance? hu) k events q
        next rfl due
  | replied i task ht hd c stage p hact cell hc hr trigger k events reply hu k' =>
    have hleave : (w.leave k' c (handOn { cell with container := k }) events).activity? t =
      some x := hx
    rcases activity?_book_goOn hleave hx' with ⟨hne, he⟩ | ⟨rfl, rfl⟩
    · exact hidle he (hother hne rfl)
    · rw [activity?_eq ht, hact] at hx
      cases hx
      exact .replied ⟨t, p, c, _, trigger, _⟩ rfl _ stage (fits_of_utterance? hu) k events reply rfl
  | putOff i task ht hd c stage p hact cell hc hr trigger k events delay e hu k' stage' hs =>
    rcases activity?_goOn_cases hx hx' with ⟨hne, he⟩ | ⟨rfl, rfl⟩
    · exact hidle he (hother hne rfl)
    · rw [activity?_eq ht, hact] at hx
      cases hx
      exact .putOff ⟨t, p, c, _, trigger, _⟩ rfl _ stage (fits_of_utterance? hu) k events
        delay e rfl
        stage' hs
  | requested request => exact hidle (hstays (activity?_addTask_of_lt hlt _)) hnone
  | created => exact hidle (hstays rfl) hnone
  | restored identity runId =>
    have hentered : (w.enter (.restore identity runId)).activity? t = some x := hx
    exact hidle (hstays ((activity?_book_of hentered _).trans hx.symm)) hnone
  | shared => exact hidle (hstays rfl) hnone
  | cancelled => exact hidle (hstays rfl) hnone
  | drifted => exact hidle (hstays rfl) hnone

lemma eq_of_finished {a : Action σ} {s : Option DialogueStep} (h : Change rules cluster w a s w')
    {t : TaskId} {r : TaskResult} {x : Activity} (hx : w.activity? t = some (.finished r))
    (hx' : w'.activity? t = some x) : x = .finished r := by
  cases progress_of_change h hx hx' with
  | idle => rfl
  | dropped w' x hnot => exact absurd rfl (hnot r)
  | moved w' x x' hm => cases hm

lemma activity?_of_change_of_ne {a : Action σ} {s : Option DialogueStep}
    (h : Change rules cluster w a s w') {t : TaskId} {x : Activity} (hx : w.activity? t = some x)
    (hstep : a ≠ .step t) (hdrop : a ≠ .drop t) : w'.activity? t = some x := by
  have hother : ∀ {i : TaskId}, a = .step i → t ≠ i := by
    rintro i rfl rfl
    exact hstep rfl
  have hbooked : ∀ (w₁ : World σ) (b : Bookkeeping) {i : TaskId} {y : Activity}, t ≠ i →
      w₁.activity? t = some x → ((w₁.book b).goOn i y).activity? t = some x := by
    intro w₁ b i y hne hx₁
    rw [activity?_goOn_of_ne hne]
    exact activity?_book_of hx₁ b
  cases h with
  | doomed i => rwa [activity?_drop_of_ne (hother rfl)]
  | dropped i =>
    have hne : t ≠ i := by
      rintro rfl
      exact hdrop rfl
    rwa [activity?_drop_of_ne hne]
  | begun i => exact hbooked w _ (hother rfl) hx
  | moved i => rwa [activity?_goOn_of_ne (hother rfl)]
  | queued i => exact hbooked { w with cells := _ } .keep (hother rfl) hx
  | asked i task ht hd c stage p hact cell hc hr trigger k events q next hu k' =>
    exact hbooked (w.leave k' c _ events) .keep (hother rfl) hx
  | replied i task ht hd c stage p hact cell hc hr trigger k events reply hu k' =>
    exact hbooked (w.leave k' c _ events) _ (hother rfl) hx
  | putOff i task ht hd c stage p hact cell hc hr trigger k events delay e hu k' =>
    exact hbooked (w.leave k' c _ events) .keep (hother rfl) hx
  | requested request => rwa [activity?_addTask_of_lt (lt_of_activity? hx)]
  | restored identity runId =>
    exact activity?_book_of (w := w.enter (.restore identity runId)) hx _
  | _ => exact hx

/-- What a task of a world does after a change. -/
lemma Attentive.course (hatt : w.Attentive rules.policy) {a : Action σ} {s : Option DialogueStep}
    (h : Change rules cluster w a s w') {t : TaskId} {x x' : Activity}
    (hx : w.activity? t = some x) (hx' : w'.activity? t = some x') :
    x' = x ∨ Course σ rules x x' := by
  cases progress_of_change h hx hx' with
  | idle => exact .inl rfl
  | dropped w' x hnot => exact .inr (.dropped x hnot)
  | begun request b x' ho => exact .inr (.begun w request b x' ho)
  | moved w' x x' hm => exact .inr (.moved w x x' hm)
  | queued w' c e p => exact .inr (.queued c e p)
  | asked s ht w' stage htrigger k events q next hd due =>
    have hexchange := hatt.exchange h
    rw [hd] at hexchange
    exact .inr (.asked s.cell stage s.purpose s.before s.trigger htrigger k events q next
      hexchange due)
  | replied s ht w' stage htrigger k events reply hd =>
    have hexchange := hatt.exchange h
    rw [hd] at hexchange
    exact .inr (.replied w s.cell stage s.purpose s.before s.trigger htrigger k events reply
      hexchange)
  | putOff s ht w' stage htrigger k events delay e hd stage' hst =>
    have hexchange := hatt.exchange h
    rw [hd] at hexchange
    exact .inr (.putOff s.cell stage s.purpose s.before s.trigger htrigger k events delay e
      hexchange
      stage' hst)

/-- A task that was not begun stays so, is dropped, or begins its request. -/
lemma opening_of_change {a : Action σ} {s : Option DialogueStep}
    (h : Change rules cluster w a s w')
    {t : TaskId} {request : Request} (hx : w.activity? t = some (.fresh request)) {x : Activity}
    (hx' : w'.activity? t = some x) :
    x = .fresh request ∨ x = .finished (.ok .nothing) ∨
      ∃ b, Opening rules w request b x ∧ w' = (w.book b).goOn t x := by
  cases progress_of_change h hx hx' with
  | idle => exact .inl rfl
  | dropped => exact .inr (.inl rfl)
  | begun request b x ho => exact .inr (.inr ⟨b, ho, rfl⟩)
  | moved w' x x' hm => cases hm

/-- A call whose reply is the result of its task ends when the task is dropped, or by what the task
says. -/
lemma result_of_change {a : Action σ} {s : Option DialogueStep}
    (h : Change rules cluster w a s w')
    {t : TaskId} {c : CellId} {stage : CallStage} {r : TaskResult}
    (hx : w.activity? t = some (.calling c stage .deliver))
    (hr : w'.activity? t = some (.finished r)) :
    r = .ok .nothing ∨ ∃ s', s = some s' ∧ s'.cell = c ∧ s'.task = t ∧ stage.Fits s'.trigger ∧
      ∃ reply, s'.reply? = some reply ∧ r = callResult reply := by
  have hprogress := progress_of_change h hx hr
  generalize hcalling : Activity.calling c stage .deliver = x at hprogress
  generalize hfinished : Activity.finished r = x' at hprogress
  cases hprogress with
  | idle => cases hcalling.trans hfinished.symm
  | dropped =>
    cases hfinished
    exact .inl rfl
  | begun => cases hcalling
  | moved w' x x' hm =>
    cases hm with
    | vanish =>
      cases hfinished
      exact .inl rfl
    | comeBack => cases hfinished
    | _ => cases hcalling
  | replied s' ht w' stage htrigger k events reply hd =>
    obtain ⟨hc, rfl, hp⟩ := Activity.calling.inj hcalling
    rw [← hp] at hfinished
    refine .inr ⟨s', rfl, hc.symm, ht, htrigger, reply, ?_, Activity.finished.inj hfinished⟩
    rw [DialogueStep.reply?, hd]
    rfl
  | _ => cases hfinished

/-- A task talks in a call that waits for that. -/
lemma activity?_of_dialogueStep {a : Action σ} {s : DialogueStep}
    (h : Change rules cluster w a (some s) w') :
    ∃ stage, w.activity? s.task = some (.calling s.cell stage s.purpose) ∧
      stage.Fits s.trigger := by
  cases h with
  | asked t task ht hd c stage p hact cell hc hr trigger c' events q next hu =>
    exact ⟨stage, by rw [activity?_eq ht, hact], fits_of_utterance? hu⟩
  | replied t task ht hd c stage p hact cell hc hr trigger c' events reply hu =>
    exact ⟨stage, by rw [activity?_eq ht, hact], fits_of_utterance? hu⟩
  | putOff t task ht hd c stage p hact cell hc hr trigger c' events delay e hu =>
    exact ⟨stage, by rw [activity?_eq ht, hact], fits_of_utterance? hu⟩

/-! ### Tasks in runs -/

lemma length_tasks_drop (w : World σ) (t : TaskId) :
    (w.drop t).tasks.length = w.tasks.length := by
  unfold drop finish
  rw [length_tasks_goOn]
  split <;> rfl

lemma length_tasks_le {a : Action σ} {s : Option DialogueStep}
    (h : Change rules cluster w a s w') :
    w.tasks.length ≤ w'.tasks.length := by
  cases h with
  | doomed t => exact Nat.le_of_eq (w.length_tasks_drop t).symm
  | dropped t => exact Nat.le_of_eq (w.length_tasks_drop t).symm
  | begun t task ht hd request hact b a ho =>
    rw [length_tasks_goOn]
    exact w.length_tasks_book_le b
  | moved => exact Nat.le_of_eq (length_tasks_goOn ..).symm
  | queued => exact Nat.le_of_eq (length_tasks_goOn ..).symm
  | asked => exact Nat.le_of_eq (length_tasks_goOn ..).symm
  | replied t task ht hd c stage p hact cell hc hr trigger c' events reply hu k =>
    rw [length_tasks_goOn]
    exact (w.leave k c _ events).length_tasks_book_le _
  | putOff => exact Nat.le_of_eq (length_tasks_goOn ..).symm
  | requested request => simp [addTask]
  | restored identity runId => exact (w.enter _).length_tasks_book_le _
  | _ => exact Nat.le_refl _

lemma length_starters (rules : Rules) (cluster : Cluster σ) (hw : w.tasks = [])
    (actions : List (Action σ)) :
    (w.starters rules cluster actions).length = (w.play rules cluster actions).tasks.length := by
  induction actions using List.reverseRecOn with
  | nil => exact (congrArg List.length hw).symm
  | append_singleton actions a ih =>
    have hle := length_tasks_le (act_change rules cluster (w.play rules cluster actions) a)
    rw [starters_concat, List.length_append, ih, List.length_map, List.length_drop, play_concat]
    omega

/-- A task that was there was started before. -/
lemma starters_concat_of_some {actions : List (Action σ)} {t : TaskId} {x : Activity}
    (hx : (w.play rules cluster actions).activity? t = some x) (hw : w.tasks = [])
    (a : Action σ) :
    (w.starters rules cluster (actions ++ [a]))[t]? = (w.starters rules cluster actions)[t]? := by
  have hlen := length_starters rules cluster hw actions
  rw [starters_concat, List.getElem?_append_left (hlen ▸ lt_of_activity? hx)]

/-- A task that was not there is started with what it does. -/
lemma starters_concat_of_none {actions : List (Action σ)} {t : TaskId}
    (hx : (w.play rules cluster actions).activity? t = none) (hw : w.tasks = [])
    (a : Action σ) :
    (w.starters rules cluster (actions ++ [a]))[t]? =
      (w.play rules cluster (actions ++ [a])).activity? t := by
  have hlen := length_starters rules cluster hw actions
  have hle : (w.play rules cluster actions).tasks.length ≤ t := by
    refine Nat.le_of_not_lt fun hlt => ?_
    simp [activity?, task?, hlt] at hx
  rw [starters_concat, List.getElem?_append_right (hlen ▸ hle), hlen, List.getElem?_map,
    List.getElem?_drop, Nat.add_sub_cancel' hle]
  rfl

/-- Where there were no tasks at first, every task has come to what it does from what it was
started with. -/
lemma exists_course {actions : List (Action σ)} {t : TaskId} {x : Activity}
    (h : (w.play rules cluster actions).activity? t = some x) (hw : w.tasks = []) :
    ∃ first, (w.starters rules cluster actions)[t]? = some first ∧
      Relation.ReflTransGen (Course σ rules) first x := by
  induction actions using List.reverseRecOn generalizing x with
  | nil => cases (activity?_eq_none hw t).symm.trans h
  | append_singleton actions a ih =>
    have hatt := attentive_play rules cluster (attentive_of_tasks rules.policy hw) actions
    have hchange := act_change rules cluster (w.play rules cluster actions) a
    cases hx₀ : (w.play rules cluster actions).activity? t with
    | none => exact ⟨x, (starters_concat_of_none hx₀ hw a).trans h, .refl⟩
    | some x₀ =>
      obtain ⟨first, hfirst, hcourse⟩ := ih hx₀
      refine ⟨first, (starters_concat_of_some hx₀ hw a).trans hfirst, ?_⟩
      rw [play_concat] at h
      rcases hatt.course hchange hx₀ h with rfl | hstep
      · exact hcourse
      · exact hcourse.tail hstep

/-- Every task has come to what it does from what it was started with. -/
theorem course_of_activity? {state : σ} {bus : EventBus ContainerEvent}
    {actions : List (Action σ)} {t : TaskId} {x : Activity}
    (h : ((empty state bus).play rules cluster actions).activity? t = some x) :
    ∃ first, ((empty state bus).starters rules cluster actions)[t]? = some first ∧
      Relation.ReflTransGen (Course σ rules) first x :=
  exists_course h rfl

lemma starters_of_take {actions : List (Action σ)} {n : Nat} {t : TaskId} {x : Activity}
    (h : (w.starters rules cluster (actions.take n))[t]? = some x) :
    (w.starters rules cluster actions)[t]? = some x := by
  have hlt := (List.getElem?_eq_some_iff.1 h).1
  rw [← List.take_append_drop n actions, starters_append, List.getElem?_append_left hlt]
  exact h

lemma change_of_mem_history {actions : List (Action σ)} {s : DialogueStep}
    (hs : s ∈ w.history rules cluster actions) :
    ∃ n a w', Change rules cluster (w.play rules cluster (actions.take n)) a (some s) w' := by
  obtain ⟨n, a, -, hdialogue⟩ := exists_of_mem_history hs
  have hchange := act_change rules cluster (w.play rules cluster (actions.take n)) a
  rw [hdialogue] at hchange
  exact ⟨n, a, _, hchange⟩

/-- Whoever says something in a run is then in a call that waits for the trigger. -/
lemma activity?_of_mem_history {actions : List (Action σ)} {s : DialogueStep}
    (hs : s ∈ w.history rules cluster actions) :
    ∃ n stage, (w.play rules cluster (actions.take n)).activity? s.task =
      some (.calling s.cell stage s.purpose) ∧ stage.Fits s.trigger := by
  obtain ⟨n, a, w', hchange⟩ := change_of_mem_history hs
  obtain ⟨stage, hactivity, hfits⟩ := activity?_of_dialogueStep hchange
  exact ⟨n, stage, hactivity, hfits⟩

/-- Whoever says something in a run has come from what it was started with to a call that waits
for the trigger. -/
lemma course_of_mem_history (hw : w.tasks = []) {actions : List (Action σ)} {s : DialogueStep}
    (hs : s ∈ w.history rules cluster actions) :
    ∃ first stage, (w.starters rules cluster actions)[s.task]? = some first ∧
      Relation.ReflTransGen (Course σ rules) first (.calling s.cell stage s.purpose) ∧
      stage.Fits s.trigger := by
  obtain ⟨n, stage, hactivity, hfits⟩ := activity?_of_mem_history hs
  obtain ⟨first, hfirst, hcourse⟩ := exists_course hactivity hw
  exact ⟨first, stage, starters_of_take hfirst, hcourse, hfits⟩

/-- New tasks are started with a request or with a container to supervise. -/
lemma isStart_of_change {a : Action σ} {s : Option DialogueStep}
    (h : Change rules cluster w a s w')
    {t : TaskId} {x : Activity} (hx : w'.activity? t = some x) (hnew : w.activity? t = none) :
    x.isStart = true := by
  have hgoOn : ∀ {w₁ : World σ} {i : TaskId} {y y' : Activity}, w.activity? i = some y →
      (w₁.goOn i y').activity? t = some x → w₁.activity? t = some x := by
    intro w₁ i y y' hi h
    have hne : t ≠ i := by
      rintro rfl
      cases hnew.symm.trans hi
    rwa [activity?_goOn_of_ne hne] at h
  have hbook : ∀ {w₁ : World σ} {b : Bookkeeping}, w₁.tasks = w.tasks →
      (w₁.book b).activity? t = some x → x.isStart = true := by
    intro w₁ b htasks h
    rcases activity?_book h with h | ⟨-, c, j, -, rfl⟩
    · rw [activity?, task?, htasks] at h
      cases hnew.symm.trans h
    · rfl
  have hdrop : ∀ {i : TaskId} {task : Task}, w.task? i = some task →
      (w.drop i).activity? t = some x → x.isStart = true := by
    intro i task hi h
    have hne : t ≠ i := by
      rintro rfl
      cases hnew.symm.trans (activity?_eq hi)
    rw [activity?_drop_of_ne hne] at h
    cases hnew.symm.trans h
  cases h with
  | nothing => cases hnew.symm.trans hx
  | doomed i task ht => exact hdrop ht hx
  | dropped i task ht => exact hdrop ht hx
  | begun i task ht hd request hact b a ho => exact hbook rfl (hgoOn (activity?_eq ht) hx)
  | moved i a a' ha hm => cases hnew.symm.trans (hgoOn ha hx)
  | queued i c e p ha cell hc hl => cases hnew.symm.trans (hgoOn ha hx)
  | asked i task ht hd c stage p hact cell hc hr trigger c' events q next hu k due =>
    cases hnew.symm.trans (hgoOn (activity?_eq ht) hx)
  | replied i task ht hd c stage p hact cell hc hr trigger c' events reply hu k =>
    have htasks : (w.leave k c (handOn { cell with container := c' }) events).tasks = w.tasks := rfl
    exact hbook htasks (hgoOn (activity?_eq ht) hx)
  | putOff i task ht hd c stage p hact cell hc hr trigger c' events delay e hu k stage' hs =>
    cases hnew.symm.trans (hgoOn (activity?_eq ht) hx)
  | requested request hoffered =>
    rcases activity?_addTask hx with hx | ⟨-, rfl⟩
    · cases hnew.symm.trans hx
    · exact hoffered
  | created => cases hnew.symm.trans hx
  | restored identity runId =>
    have htasks : (w.enter (.restore identity runId)).tasks = w.tasks := rfl
    exact hbook htasks hx
  | shared => cases hnew.symm.trans hx
  | cancelled => cases hnew.symm.trans hx
  | drifted => cases hnew.symm.trans hx

lemma isStart_of_starters (hw : w.tasks = []) {actions : List (Action σ)} {t : TaskId}
    {x : Activity} (h : (w.starters rules cluster actions)[t]? = some x) : x.isStart = true := by
  induction actions using List.reverseRecOn with
  | nil => cases h
  | append_singleton actions a ih =>
    cases hx : (w.play rules cluster actions).activity? t with
    | some x₀ =>
      rw [starters_concat_of_some hx hw] at h
      exact ih h
    | none =>
      rw [starters_concat_of_none hx hw, play_concat] at h
      exact isStart_of_change (act_change rules cluster _ a) h hx

/-- What holds of every task when it is started, and is kept by the courses of tasks, holds of
every task in every run that begins without tasks. -/
lemma activity_play {P : Activity → Prop} (hstart : ∀ x, x.isStart = true → P x)
    (hstep : ∀ x x', Course σ rules x x' → P x → P x') {actions : List (Action σ)} {t : TaskId}
    {x : Activity} (hx : (w.play rules cluster actions).activity? t = some x)
    (hw : w.tasks = []) : P x := by
  induction actions using List.reverseRecOn generalizing t x with
  | nil => cases (activity?_eq_none hw t).symm.trans hx
  | append_singleton actions a ih =>
    have hatt := attentive_play rules cluster (attentive_of_tasks rules.policy hw) actions
    have hchange := act_change rules cluster (w.play rules cluster actions) a
    rw [play_concat] at hx
    cases hx₀ : (w.play rules cluster actions).activity? t with
    | none => exact hstart x (isStart_of_change hchange hx hx₀)
    | some x₀ =>
      rcases hatt.course hchange hx₀ hx with rfl | hcourse
      · exact ih hx₀
      · exact hstep x₀ x hcourse (ih hx₀)

end World

end JobSupervision.Supervision
