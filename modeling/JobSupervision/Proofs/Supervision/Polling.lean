/-
# One polling task for a job

A task attends to a job if it polls the container of the job and was told neither to end nor
to shut down.  The books know every such task, so that there is one for a job at most, and
none is left when the polling of the job is ended.  Only a request that waits for the polling
task breaks this: it takes the task out of the books while the task goes on.
-/
import JobSupervision.Proofs.Supervision.Books

namespace JobSupervision.Supervision

variable {σ : Type} {rules : Rules} {cluster : Cluster σ} {w w' : World σ}

/-- Whether a polling task asks something. -/
def DialogueStep.polls (s : DialogueStep) : Bool :=
  (s.purpose = .watch || s.purpose = .watchState) && s.query?.isSome

/-- A task that looks at the state after a failed poll comes for the lock or waits for it. -/
def Activity.LooksOnly : Activity → Prop
  | .calling _ stage .watchState => stage = .arriving .state ∨ stage = .queued .state
  | _ => True

lemma Activity.LooksOnly.trigger_eq {c : CellId} {stage : CallStage} {trigger : Trigger}
    (h : (Activity.calling c stage .watchState).LooksOnly) (hfits : stage.Fits trigger) :
    trigger = .operation .state := by
  rcases h with rfl | rfl <;> cases trigger <;>
    first | exact congrArg Trigger.operation hfits | exact hfits.elim

lemma Course.looksOnly {a a' : Activity} (h : Course σ rules a a') (ha : a.LooksOnly) :
    a'.LooksOnly := by
  cases h with
  | dropped => trivial
  | begun w request b a ho => cases ho <;> trivial
  | moved w a a' hm =>
    cases hm with
    | comeBack c e due p =>
      cases p with
      | watchState => rcases ha with ha | ha <;> cases ha
      | _ => trivial
    | _ => trivial
  | queued c e p =>
    cases p with
    | watchState =>
      rcases ha with ha | ha <;> cases ha
      exact .inr rfl
    | _ => trivial
  | asked c stage p k trigger hfits k' events q next hs due =>
    cases p with
    | watchState =>
      obtain rfl := ha.trigger_eq hfits
      cases hs with
      | attemptKnown e he => exact he.elim
      | attemptUnknown e he => exact he.elim
    | _ => trivial
  | replied w c stage p k trigger hfits k' events reply hs =>
    cases p with
    | release j =>
      rcases reply with e | s | s
      · trivial
      · simp only [World.sequel]
        split <;> trivial
      · trivial
    | watch =>
      rcases reply with e | v
      · exact .inl rfl
      · simp only [World.sequel]
        split <;> trivial
    | watchState =>
      simp only [World.sequel]
      split <;> trivial
    | _ => trivial
  | putOff c stage p k trigger hfits k' events delay e hs stage' hst =>
    cases p with
    | watchState =>
      obtain rfl := ha.trigger_eq hfits
      cases hs
    | _ => trivial

namespace World

/-- Whether a task polls the container of a job and was told neither to end nor to shut
down. -/
def Attends (w : World σ) (t : TaskId) (j : JobId) : Prop :=
  w.shutDown = false ∧ ∃ task c, w.task? t = some task ∧ task.detached = false ∧
    task.activity.supervised? = some c ∧ w.jobOf? c = some j

/-- Whether a task has begun and not ended. -/
def IsUnderWay (w : World σ) (t : TaskId) : Prop :=
  ∃ a, w.activity? t = some a ∧ (∀ r, a ≠ .fresh r) ∧ ∀ r, a ≠ .finished r

/-- Whether a polling task that has not ended is taken out of the books by somebody who waits
for it. -/
def Takes (w : World σ) (a : Action σ) : Prop :=
  ∃ t task j s, a = .step t ∧ w.task? t = some task ∧ w.isDoomed task = false ∧
    task.activity = .fresh (.join j) ∧ w.supervisors.lookup j = some s ∧
    w.hasFinished s = false ∧ w.shutDown = false

/-! ### Attendance in a change -/

lemma not_isFinished_of_supervised? {task : Task} {c : CellId}
    (h : task.activity.supervised? = some c) : task.isFinished = false := by
  cases ha : task.activity with
  | finished r =>
    rw [ha] at h
    cases h
  | _ => simp [Task.isFinished, ha]

lemma Attends.hasFinished {t : TaskId} {j : JobId} (h : w.Attends t j) :
    w.hasFinished t = false := by
  obtain ⟨-, task, c, ht, -, hs, -⟩ := h
  rw [World.hasFinished, ht]
  exact not_isFinished_of_supervised? hs

lemma Attends.lt {t : TaskId} {j : JobId} (h : w.Attends t j) : t < w.tasks.length := by
  obtain ⟨-, task, c, ht, -⟩ := h
  exact (List.getElem?_eq_some_iff.1 ht).1

lemma Keeps.length_le (h : Keeps w w') : w.tasks.length ≤ w'.tasks.length := by
  refine Nat.le_of_not_lt fun hlt => ?_
  obtain ⟨task', ht', -⟩ := h.tasks w'.tasks.length w.tasks[w'.tasks.length] (by simp [task?, hlt])
  exact absurd (List.getElem?_eq_some_iff.1 ht').1 (Nat.lt_irrefl _)

/-- Nobody comes to attend to a job unless the books say so. -/
lemma Attends.of_keeps {t : TaskId} {j : JobId} (h : w'.Attends t j) (htidy : w.Tidy)
    (hk : Keeps w w') : w.Attends t j := by
  obtain ⟨hdown, task', c, ht', hd', hs', hj'⟩ := h
  refine ⟨hk.shutDown.symm.trans hdown, ?_⟩
  cases ht : w.task? t with
  | none =>
    rw [hk.fresh t task' ht' ht] at hs'
    cases hs'
  | some task =>
    obtain ⟨task'', ht'', hd, -, hs⟩ := hk.tasks t task ht
    cases ht'.symm.trans ht''
    rcases hs with hs | hf
    · rw [hs] at hs'
      obtain ⟨j₀, hj₀⟩ := htidy.places t task c ht hs'
      cases (hk.jobs c j₀ hj₀).symm.trans hj'
      exact ⟨task, c, rfl, hd.symm.trans hd', hs', hj₀⟩
    · rw [not_isFinished_of_supervised? hs'] at hf
      cases hf

lemma Attends.of_detach {s t : TaskId} {j : JobId} (h : (w.detach s).Attends t j) :
    w.Attends t j ∧ s ≠ t := by
  obtain ⟨hdown, task, c, ht, hd, hrest⟩ := h
  rw [task?_detach] at ht
  by_cases hst : s = t
  · rw [if_pos hst] at ht
    obtain ⟨task₀, -, rfl⟩ := Option.map_eq_some_iff.1 ht
    cases hd
  · rw [if_neg hst] at ht
    exact ⟨⟨hdown, task, c, ht, hd, hrest⟩, hst⟩

lemma Attends.of_abort {s t : TaskId} {j : JobId} (h : (w.abort s).Attends t j) :
    w.Attends t j := by
  obtain ⟨hdown, task, c, ht, hd, hrest⟩ := h
  rw [task?_abort] at ht
  split at ht
  · obtain ⟨task₀, ht₀, rfl⟩ := Option.map_eq_some_iff.1 ht
    exact ⟨hdown, task₀, c, ht₀, hd, hrest⟩
  · exact ⟨hdown, task, c, ht, hd, hrest⟩

/-- Who attends to a job after bookkeeping did so before and was not told to end, or is just
being started for this. -/
lemma Attends.of_book {t : TaskId} {j : JobId} {b : Bookkeeping} (h : (w.book b).Attends t j) :
    (w.Attends t j ∧ ∀ j', b = .forget j' ∨ b = .dismiss j' → w.supervisors.lookup j' ≠ some t) ∨
      t = w.tasks.length ∧ ∃ c j', b = .supervise c j' ∧ w.jobOf? c = some j ∧
        w.book b = { w with
          tasks := w.tasks ++ [{ activity := .summoned c }],
          supervisors := (j', t) :: w.prune.supervisors } := by
  cases b with
  | keep => exact .inl ⟨h, fun j' he => by simp at he⟩
  | supervise c' j' =>
    rcases w.book_supervise_cases c' j' with hbook | ⟨-, hbook⟩
    · rw [hbook] at h
      exact .inl ⟨h, fun j' he => by simp at he⟩
    · rw [hbook] at h
      obtain ⟨hdown, task, c, ht, hd, hs, hj⟩ := h
      rw [task?] at ht
      by_cases hlt : t < w.tasks.length
      · rw [List.getElem?_append_left hlt] at ht
        exact .inl ⟨⟨hdown, task, c, ht, hd, hs, hj⟩, fun j' he => by simp at he⟩
      · rw [List.getElem?_append_right (Nat.le_of_not_lt hlt), List.getElem?_singleton] at ht
        split at ht
        · next hzero =>
          have he : t = w.tasks.length :=
            Nat.le_antisymm (Nat.le_of_sub_eq_zero hzero) (Nat.le_of_not_lt hlt)
          cases ht
          cases hs
          exact .inr ⟨he, c', j', rfl, hj, by rw [hbook, he]⟩
        · cases ht
  | forget j' =>
    cases hlookup : w.supervisors.lookup j' with
    | none =>
      rw [book_forget_of_none hlookup] at h
      refine .inl ⟨h, fun j'' he => ?_⟩
      obtain rfl : j' = j'' := by simpa using he
      simp [hlookup]
    | some s =>
      rw [book_forget_of_some hlookup] at h
      obtain ⟨hbefore, hst⟩ := h.of_abort.of_detach
      refine .inl ⟨hbefore, fun j'' he => ?_⟩
      obtain rfl : j' = j'' := by simpa using he
      rw [hlookup]
      exact fun he => hst (Option.some.inj he)
  | dismiss j' =>
    cases hlookup : w.supervisors.lookup j' with
    | none =>
      rw [book_dismiss_of_none hlookup] at h
      refine .inl ⟨h, fun j'' he => ?_⟩
      obtain rfl : j' = j'' := by simpa using he
      simp [hlookup]
    | some s =>
      rw [book_dismiss_of_some hlookup] at h
      obtain ⟨hbefore, hst⟩ := h.of_detach
      refine .inl ⟨hbefore, fun j'' he => ?_⟩
      obtain rfl : j' = j'' := by simpa using he
      rw [hlookup]
      exact fun he => hst (Option.some.inj he)
  | take j' => exact .inl ⟨h, fun j' he => by simp at he⟩
  | close => cases h.1
  | cancel => cases h.1
  | enter c' j' => exact .inl ⟨h, fun j' he => by simp at he⟩

lemma Attends.of_booked {t : TaskId} {j : JobId} {P : World σ → Bookkeeping → Prop}
    (hb : Booked P w w') (htidy : w.Tidy) (h : w'.Attends t j) (hlt : t < w.tasks.length) :
    w.Attends t j := by
  induction hb with
  | keep hk => exact h.of_keeps htidy hk
  | @book w w₁ w' hk b _ hsound _ ih =>
    have htidy₁ := htidy.keeps hk
    have hlt₁ := Nat.lt_of_lt_of_le hlt hk.length_le
    have hbook := ih (htidy₁.book hsound) h (Nat.lt_of_lt_of_le hlt₁ (w₁.length_tasks_book_le b))
    rcases hbook.of_book with ⟨h₁, -⟩ | ⟨rfl, -⟩
    · exact h₁.of_keeps htidy hk
    · exact absurd hlt₁ (Nat.lt_irrefl _)

/-! ### Whoever attends is in the books -/

/-- The books know whoever attends to a job. -/
def Enlisted (w : World σ) : Prop := ∀ t j, w.Attends t j → (j, t) ∈ w.supervisors

lemma enlisted_empty (state : σ) (bus : EventBus ContainerEvent) :
    (empty state bus).Enlisted := by
  intro t j h
  exact absurd h.lt (Nat.not_lt_zero t)

lemma Enlisted.keeps (h : w.Enlisted) (htidy : w.Tidy) (hk : Keeps w w') : w'.Enlisted := by
  intro t j hattends
  rw [hk.supervisors]
  exact h t j (hattends.of_keeps htidy hk)

/-- Whoever attends to a job is in the books after bookkeeping, unless they were taken out
while they went on. -/
lemma Enlisted.book (h : w.Enlisted) (htidy : w.Tidy) {b : Bookkeeping} (hsound : w.Sound b)
    (htake : ∀ j s, b = .take j → w.supervisors.lookup j = some s → w.shutDown = false →
      w.hasFinished s = true) : (w.book b).Enlisted := by
  intro t j hattends
  rcases hattends.of_book with ⟨hbefore, hnot⟩ | ⟨-, c, j', rfl, hj, hbook⟩
  swap
  · rw [Sound, hj] at hsound
    cases hsound
    rw [hbook]
    exact List.mem_cons_self
  have hmem := h t j hbefore
  -- the task is the one that the books give for the job, so it is not the one taken out
  have hlookup : w.supervisors.lookup j = some t := lookup_of_mem htidy.keys hmem
  have hfilter : ∀ j', (j = j' → False) → (j, t) ∈ w.supervisors.filter fun s => s.1 ≠ j' :=
    fun j' hne => List.mem_filter.2 ⟨hmem, by simpa using hne⟩
  cases b with
  | keep => exact hmem
  | supervise c j' =>
    have hprune : (j, t) ∈ w.prune.supervisors :=
      List.mem_filter.2 ⟨hmem, by rw [hbefore.hasFinished]; rfl⟩
    rcases w.book_supervise_cases c j' with hbook | ⟨-, hbook⟩ <;> rw [hbook]
    · exact hprune
    · exact List.mem_cons_of_mem _ hprune
  | forget j' =>
    have hmem' := hfilter j' fun he => hnot j' (.inl rfl) (he ▸ hlookup)
    cases hs : w.supervisors.lookup j' with
    | none => rwa [book_forget_of_none hs]
    | some s => rwa [book_forget_of_some hs]
  | dismiss j' =>
    have hmem' := hfilter j' fun he => hnot j' (.inr rfl) (he ▸ hlookup)
    cases hs : w.supervisors.lookup j' with
    | none => rwa [book_dismiss_of_none hs]
    | some s => rwa [book_dismiss_of_some hs]
  | take j' =>
    refine hfilter j' fun he => ?_
    have hfinished := htake j' t rfl (he ▸ hlookup) hbefore.1
    rw [hbefore.hasFinished] at hfinished
    cases hfinished
  | close => cases hattends.1
  | cancel => exact hmem
  | enter c j' => exact hmem

lemma Enlisted.booked (h : w.Enlisted) (htidy : w.Tidy) {P : World σ → Bookkeeping → Prop}
    (hb : Booked P w w')
    (htake : ∀ w₁ j s, P w₁ (.take j) → w₁.supervisors.lookup j = some s →
      w₁.shutDown = false → w₁.hasFinished s = true) : w'.Enlisted := by
  induction hb with
  | keep hk => exact h.keeps htidy hk
  | book hk b hP hsound _ ih =>
    refine ih ((h.keeps htidy hk).book (htidy.keeps hk) hsound ?_) ((htidy.keeps hk).book hsound)
    rintro j s rfl
    exact htake _ j s hP

/-- The books know whoever attends to a job after a change, unless a task is taken out of them
while it goes on. -/
lemma Enlisted.change (h : w.Enlisted) (htidy : w.Tidy) (hatt : w.Attentive rules.policy)
    {a : Action σ} {s : Option DialogueStep} (hc : Change rules cluster w a s w')
    (htakes : ¬ w.Takes a) : w'.Enlisted := by
  refine h.booked htidy (hatt.booked hc) fun w₁ j s' hoccasion hlookup hdown => ?_
  have hbegun : ∀ b, Occasion rules w a s w₁ b → b = .take j → w₁.hasFinished s' = true := by
    intro b hb hbj
    cases hb with
    | begun t task ht hd request hact b x ho =>
      subst hbj
      by_contra hf
      rw [Bool.not_eq_true] at hf
      cases ho <;> exact htakes ⟨t, task, j, s', rfl, ht, hd, hact, hlookup, hf, hdown⟩
    | replied s reply hreply =>
      rcases booking_cases s.cell s.purpose reply with
        hkeep | ⟨shown, -, hsupervise⟩ | ⟨j', shown, -, -, -, hforget⟩
      · cases hkeep.symm.trans hbj
      · cases hsupervise.symm.trans hbj
      · cases hforget.symm.trans hbj
    | entered => cases hbj
    | restored => cases hbj
    | cancelled => cases hbj
  exact hbegun _ hoccasion rfl

/-! ### Who polls attends -/

lemma looksOnly_play (rules : Rules) (cluster : Cluster σ) (state : σ)
    (bus : EventBus ContainerEvent) (actions : List (Action σ)) (t : TaskId) (x : Activity)
    (hx : ((empty state bus).play rules cluster actions).activity? t = some x) : x.LooksOnly :=
  activity_play (fun x h => by cases x <;> trivial) (fun _ _ h => h.looksOnly) hx rfl

/-- A task that polls a container attends to its job. -/
lemma attends_of_polls (hatt : w.Attentive rules.policy)
    (hlooks : ∀ t x, w.activity? t = some x → x.LooksOnly) {a : Action σ} {s : DialogueStep}
    (hc : Change rules cluster w a (some s) w') (hp : s.polls = true) :
    w.Attends s.task s.before.jobId := by
  cases hc with
  | asked t task ht hd c stage p hact cell hc hr trigger c' events q next hu k due =>
    have ha := activity?_eq ht
    rw [hact] at ha
    have hjob : w.jobOf? c = some cell.container.jobId := by
      rw [jobOf?, container?_eq hc]
      rfl
    cases p with
    | watch =>
      simp only [isDoomed, hact, canBeDetached, Bool.true_and, Bool.or_eq_false_iff] at hd
      exact ⟨hd.2.1, task, c, ht, hd.2.2, by rw [hact]; rfl, hjob⟩
    | watchState =>
      have hexchange := (hatt.always_utterance ha hc hu).head
      obtain rfl := (hlooks t _ ha).trigger_eq (fits_of_utterance? hu)
      cases hexchange with
      | attemptKnown e he => exact he.elim
      | attemptUnknown e he => exact he.elim
    | deliver => cases hp
    | start => cases hp
    | release j => cases hp
  | replied => simp [DialogueStep.polls, DialogueStep.query?, Dialogue.query?] at hp
  | putOff => simp [DialogueStep.polls, DialogueStep.query?, Dialogue.query?] at hp

/-! ### The end of polling -/

/-- When the polling of a job is ended, nobody attends to the job any longer. -/
lemma not_attends_of_dismiss (htidy : w.Tidy) (henlisted : w.Enlisted) {j : JobId}
    (hk : Keeps (w.book (.dismiss j)) w') (t : TaskId) : ¬ w'.Attends t j := by
  intro h
  have hbook := h.of_keeps (htidy.book (b := .dismiss j) trivial) hk
  rcases hbook.of_book with ⟨hbefore, hnot⟩ | ⟨-, c, j', he, -⟩
  · exact hnot j (.inr rfl) (lookup_of_mem htidy.keys (henlisted t j hbefore))
  · cases he

/-- Nobody who was there before comes to attend to a job in a run. -/
lemma Attends.of_play {t : TaskId} {j : JobId} {actions : List (Action σ)}
    (htidy : w.Tidy) (hatt : w.Attentive rules.policy)
    (h : (w.play rules cluster actions).Attends t j) (hlt : t < w.tasks.length) :
    w.Attends t j := by
  induction actions generalizing w with
  | nil => exact h
  | cons a rest ih =>
    have hchange := act_change rules cluster w a
    have hbooked := hatt.booked hchange
    have hnext := ih (htidy.booked hbooked) (hatt.change hchange) h
      (Nat.lt_of_lt_of_le hlt (length_tasks_le hchange))
    exact hnext.of_booked hbooked htidy hlt

/-- The books know whoever attends to a job throughout a run in which no polling task is taken
out of them. -/
lemma enlisted_play (state : σ) (bus : EventBus ContainerEvent) (actions : List (Action σ))
    (h : Throughout rules cluster (empty state bus) actions fun w a => ¬ w.Takes a) :
    ((empty state bus).play rules cluster actions).Enlisted := by
  induction actions using List.reverseRecOn with
  | nil => exact enlisted_empty state bus
  | append_singleton actions a ih =>
    obtain ⟨hearlier, hlast⟩ := h.of_concat
    rw [play_concat]
    exact (ih hearlier).change (tidy_run rules cluster state bus actions)
      (attentive_run rules cluster state bus actions) (act_change rules cluster _ a) hlast

/-- A request to end the polling of a job fails, or it tells the polling task to end and goes
on. -/
lemma of_unsupervise {j : JobId} {b : Bookkeeping} {x : Activity}
    (h : Opening rules w (.unsupervise j) b x) :
    (∃ e, x = .finished (.error e)) ∨
      b = .dismiss j ∧ (∀ r, x ≠ .fresh r) ∧ ∀ r, x ≠ .finished r := by
  cases h with
  | refused request e => exact .inl ⟨e, rfl⟩
  | dismiss j c hl s hs => exact .inr ⟨rfl, fun r hr => (by cases hr), fun r hr => by cases hr⟩
  | dismissNobody j c hl hs => exact .inr ⟨rfl, fun r hr => (by cases hr), fun r hr => by cases hr⟩

/-- A request to end the polling of a job that did not fail was under way at a time when nobody
attended to the job. -/
lemma exists_not_attends (state : σ) (bus : EventBus ContainerEvent) (actions : List (Action σ))
    (h : Throughout rules cluster (empty state bus) actions fun w a => ¬ w.Takes a)
    {u : TaskId} {j : JobId} {x : Activity}
    (hstart : ((empty state bus).starters rules cluster actions)[u]? =
      some (.fresh (.unsupervise j)))
    (hx : ((empty state bus).play rules cluster actions).activity? u = some x) :
    x = .fresh (.unsupervise j) ∨ (∃ r, x = .finished r ∧ ∀ v, r ≠ .ok (.call v)) ∨
      ∃ m ≤ actions.length, ((empty state bus).play rules cluster (actions.take m)).IsUnderWay u ∧
        ∀ t, ¬ ((empty state bus).play rules cluster (actions.take m)).Attends t j := by
  induction actions using List.reverseRecOn generalizing x with
  | nil => simp [activity?, task?, empty] at hx
  | append_singleton actions a ih =>
    have hatt := attentive_run rules cluster state bus actions
    have htidy := tidy_run rules cluster state bus actions
    have hchange := act_change rules cluster ((empty state bus).play rules cluster actions) a
    have hearlier := h.of_concat.1
    cases hx₀ : ((empty state bus).play rules cluster actions).activity? u with
    | none =>
      rw [starters_concat_of_none hx₀ rfl, hx] at hstart
      exact .inl (Option.some.inj hstart)
    | some x₀ =>
      rw [starters_concat_of_some hx₀ rfl] at hstart
      rw [play_concat] at hx
      rcases ih hearlier hstart hx₀ with rfl | ⟨r, rfl, hr⟩ | ⟨m, hm, hrest⟩
      · -- the request may begin now
        rcases opening_of_change hchange hx₀ hx with hsame | hnothing | ⟨b, ho, hworld⟩
        · exact .inl hsame
        · exact .inr (.inl ⟨_, hnothing, fun v hv => by cases hv⟩)
        · rcases of_unsupervise ho with ⟨e, rfl⟩ | ⟨rfl, hfresh, hfinished⟩
          · exact .inr (.inl ⟨_, rfl, fun v hv => by cases hv⟩)
          · have hkeeps : Keeps (((empty state bus).play rules cluster actions).book (.dismiss j))
                (((empty state bus).play rules cluster actions).act rules cluster a) := by
              rw [hworld]
              exact .goOn (activity?_book_of hx₀ _) (fun r hr => by cases hr)
                (Course.begun _ _ _ x ho).supervised?
            have henlisted := enlisted_play state bus actions hearlier
            refine .inr (.inr ⟨(actions ++ [a]).length, Nat.le_refl _, ?_⟩)
            rw [List.take_length, play_concat]
            exact ⟨⟨x, hx, hfresh, hfinished⟩, not_attends_of_dismiss htidy henlisted hkeeps⟩
      · rcases hatt.course hchange hx₀ hx with rfl | hcourse
        · exact .inr (.inl ⟨r, rfl, hr⟩)
        · exact absurd hcourse (Course.not_finished r x)
      · refine .inr (.inr ⟨m, ?_, ?_⟩)
        · rw [List.length_append]
          exact Nat.le_add_right_of_le hm
        · rwa [List.take_append_of_le_length hm]

/-! ### Single supervision -/

/-- What a run owes to those who rely on its polling tasks. -/
structure SingleSupervision (rules : Rules) (cluster : Cluster σ) (w : World σ)
    (actions : List (Action σ)) : Prop where
  /-- One task at most attends to a job. -/
  single : ∀ n t t' j, (w.play rules cluster (actions.take n)).Attends t j →
    (w.play rules cluster (actions.take n)).Attends t' j → t = t'
  /-- Whoever attends to a job is counted as active. -/
  counted : ∀ n t j, (w.play rules cluster (actions.take n)).Attends t j →
    (j, t) ∈ (w.play rules cluster (actions.take n)).supervisors ∧
      (w.play rules cluster (actions.take n)).hasFinished t = false
  /-- When a request to end the polling of a job has succeeded, only tasks that are started
  later poll for the job. -/
  quiet : ∀ n u j v s, (w.starters rules cluster (actions.take n))[u]? =
      some (.fresh (.unsupervise j)) →
    (w.play rules cluster (actions.take n)).result? u = some (.ok (.call v)) →
    s ∈ (w.play rules cluster (actions.take n)).history rules cluster (actions.drop n) →
    s.polls = true → s.before.jobId = j →
      (w.play rules cluster (actions.take n)).tasks.length ≤ s.task

/-- Whether, after a request to end the polling of a job has succeeded, a task polls for the
job that was started while the request was under way. -/
def Overtaken (rules : Rules) (cluster : Cluster σ) (w : World σ) (actions : List (Action σ)) :
    Prop :=
  ∃ n u j v s, (w.starters rules cluster (actions.take n))[u]? =
      some (.fresh (.unsupervise j)) ∧
    (w.play rules cluster (actions.take n)).result? u = some (.ok (.call v)) ∧
    s ∈ (w.play rules cluster (actions.take n)).history rules cluster (actions.drop n) ∧
    s.polls = true ∧ s.before.jobId = j ∧
    s.task < (w.play rules cluster (actions.take n)).tasks.length ∧
    ∃ m ≤ n, (w.play rules cluster (actions.take m)).IsUnderWay u ∧
      (w.play rules cluster (actions.take m)).tasks.length ≤ s.task

/-- When somebody waits for a polling task, the task goes on, and nobody knows of it. -/
lemma Takes.not_counted (rules : Rules) (cluster : Cluster σ) {a : Action σ} (h : w.Takes a)
    (htidy : w.Tidy) :
    ∃ t j, (w.act rules cluster a).Attends t j ∧
      (j, t) ∉ (w.act rules cluster a).supervisors := by
  obtain ⟨t, task, j, s, rfl, ht, hd, hact, hlookup, hf, hdown⟩ := h
  have hstep : w.act rules cluster (.step t) =
      (w.book (.take j)).goOn t (.joining s none (.showJob j)) := by
    simp [act, step, isEnabled, ht, hd, Task.isFinished, hact, isReady, begin, takeSupervisor,
      hlookup, World.book]
  obtain ⟨task', ht', hrest⟩ := htidy.entries j s (mem_of_lookup hlookup)
  rw [World.hasFinished, ht'] at hf
  obtain ⟨hd', c, hs, hj⟩ := hrest.resolve_left (by simp [hf])
  have hne : t ≠ s := by
    rintro rfl
    cases ht.symm.trans ht'
    rw [hact] at hs
    cases hs
  rw [hstep]
  refine ⟨s, j, ⟨hdown, task', c, ?_, hd', hs, hj⟩, fun hmem => ?_⟩
  · rw [task?_goOn, if_neg hne]
    exact ht'
  · simpa using (List.mem_filter.1 hmem).2

/-- A task that polls a job after a request to end the polling of the job has succeeded was
started after the request had begun. -/
lemma under_way_of_polls (state : σ) (bus : EventBus ContainerEvent) (actions : List (Action σ))
    (h : Throughout rules cluster (empty state bus) actions fun w a => ¬ w.Takes a)
    {n : Nat} {u : TaskId} {j : JobId} {v : CallValue} {s : DialogueStep}
    (hstart : ((empty state bus).starters rules cluster (actions.take n))[u]? =
      some (.fresh (.unsupervise j)))
    (hresult : ((empty state bus).play rules cluster (actions.take n)).result? u =
      some (.ok (.call v)))
    (hs : s ∈ ((empty state bus).play rules cluster (actions.take n)).history rules cluster
      (actions.drop n)) (hpolls : s.polls = true) (hj : s.before.jobId = j) :
    ∃ m ≤ n, ((empty state bus).play rules cluster (actions.take m)).IsUnderWay u ∧
      ((empty state bus).play rules cluster (actions.take m)).tasks.length ≤ s.task := by
  rcases exists_not_attends state bus (actions.take n) (h.take n) hstart (result?_eq hresult)
    with hfresh | ⟨r, hr, hnot⟩ | ⟨m, hm, hway, hnobody⟩
  · cases hfresh
  · cases hr
    exact absurd rfl (hnot v)
  · have hmn : m ≤ n := by
      rw [List.length_take] at hm
      omega
    rw [List.take_take, Nat.min_eq_left hmn] at hway hnobody
    refine ⟨m, hmn, hway, Nat.le_of_not_lt fun hearly => ?_⟩
    -- whoever polls attends to the job at that time, so it did so already before
    obtain ⟨p, a, w', hchange⟩ := change_of_mem_history hs
    rw [← play_append] at hchange
    have hattends := attends_of_polls
      (attentive_run rules cluster state bus (actions.take n ++ (actions.drop n).take p))
      (fun t x hx => looksOnly_play rules cluster state bus _ t x hx) hchange hpolls
    have hsplit : actions.take n = actions.take m ++ (actions.take n).drop m := by
      conv_lhs => rw [← List.take_append_drop m (actions.take n)]
      rw [List.take_take, Nat.min_eq_left hmn]
    rw [hj, hsplit, List.append_assoc, play_append] at hattends
    have hatt := attentive_run rules cluster state bus (actions.take m)
    have htidy := tidy_run rules cluster state bus (actions.take m)
    exact hnobody s.task (hattends.of_play htidy hatt hearly)

/-- In every run, polling tasks can be relied on exactly if no polling task is taken out of the
books by somebody who waits for it, and no request to end the polling of a job is overtaken by
a new polling task. -/
theorem singleSupervision_iff (rules : Rules) (cluster : Cluster σ) (state : σ)
    (bus : EventBus ContainerEvent) (actions : List (Action σ)) :
    let w := empty state bus
    SingleSupervision rules cluster w actions ↔
      (∀ n a, actions[n]? = some a → ¬ (w.play rules cluster (actions.take n)).Takes a) ∧
        ¬ Overtaken rules cluster w actions := by
  intro w
  have htidy := fun n => tidy_run rules cluster state bus (actions.take n)
  constructor
  · intro h
    refine ⟨fun n a ha htakes => ?_, ?_⟩
    · obtain ⟨t, j, hattends, hnot⟩ := htakes.not_counted rules cluster (htidy n)
      rw [← play_take_succ rules cluster w ha] at hattends hnot
      exact hnot (h.counted (n + 1) t j hattends).1
    · rintro ⟨n, u, j, v, s, hstart, hresult, hs, hpolls, hj, hlt, -⟩
      exact absurd hlt (Nat.not_lt_of_le (h.quiet n u j v s hstart hresult hs hpolls hj))
  · rintro ⟨htakes, hovertaken⟩
    have hthroughout : Throughout rules cluster w actions fun w a => ¬ w.Takes a := htakes
    have henlisted := fun n => enlisted_play state bus (actions.take n) (hthroughout.take n)
    refine ⟨fun n t t' j h h' => ?_, fun n t j h => ⟨henlisted n t j h, h.hasFinished⟩, ?_⟩
    · have hlookup := lookup_of_mem (htidy n).keys (henlisted n t j h)
      have hlookup' := lookup_of_mem (htidy n).keys (henlisted n t' j h')
      exact Option.some.inj (hlookup.symm.trans hlookup')
    · intro n u j v s hstart hresult hs hpolls hj
      refine Nat.le_of_not_lt fun hlt => hovertaken ?_
      exact ⟨n, u, j, v, s, hstart, hresult, hs, hpolls, hj, hlt,
        under_way_of_polls state bus actions hthroughout hstart hresult hs hpolls hj⟩

/-- Somebody waits for the polling task of a job, and then the job is started again. -/
def startAfterJoin : List (Action Unit) :=
  [.restore (.bare ⟨"a"⟩) ⟨"r"⟩, .request (.join ⟨"a"⟩), .step 1,
    .request (.start ⟨"a"⟩), .step 2, .step 2]

/-- Two tasks attend to the job afterwards, the old one and a new one. -/
theorem not_singleSupervision_startAfterJoin :
    ¬ SingleSupervision ⟨.standard, .standard⟩ .oblivious (empty () ⟨8, 0, [], [], 0⟩)
      startAfterJoin := by
  intro h
  have hold := h.single startAfterJoin.length 0 3 ⟨"a"⟩
    ⟨rfl, { activity := .summoned 0 }, 0, rfl, rfl, rfl, rfl⟩
    ⟨rfl, { activity := .summoned 0 }, 0, rfl, rfl, rfl, rfl⟩
  cases hold

end World

end JobSupervision.Supervision
