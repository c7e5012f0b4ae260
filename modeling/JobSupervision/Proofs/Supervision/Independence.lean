/-
# Jobs do not disturb each other

The registry names one container for a job at most, and one that is for that job
(`World.Registered`).  A task that works for a job, on a request about it or by polling it, stays
with that job: what it talks about, what it waits for and what it does to the books is about this
job (`Activity.Concerns`).  So whatever is done for some jobs leaves the registry entry, the
containers and the polling tasks of every other one as they are (`World.Spared`).
-/
import JobSupervision.Proofs.Supervision.Shutdown

namespace JobSupervision.Supervision

variable {σ : Type} {rules : Rules} {cluster : Cluster σ} {w w' : World σ} {j : JobId}

/-- The job that a request is about. -/
def Request.jobId? : Request → Option JobId
  | .start j | .stop j | .status j | .release j | .unsupervise j | .join j => some j
  | .shutdown | .call .. | .await _ | .sleep _ => none

/-- Whether an activity is about one job only. -/
def Activity.Concerns (w : World σ) (j : JobId) : Activity → Prop
  | .fresh request => request.jobId? = some j
  | .summoned c | .pausing c _ => w.jobOf? c = some j
  | .calling c _ p => w.jobOf? c = some j ∧ ∀ j', p = .release j' → j' = j
  | .joining _ _ (.showCell c) => w.jobOf? c = some j
  | .joining _ _ (.showJob j') => j' = j
  | .joining _ _ _ | .sleeping _ => False
  | .finished _ => True

/-- Whether an act of bookkeeping is about another job. -/
def Bookkeeping.Avoids (j : JobId) : Bookkeeping → Prop
  | .supervise _ j' | .forget j' | .dismiss j' | .take j' | .enter _ j' => j' ≠ j
  | .keep | .cancel => True
  | .close => False

lemma Activity.Concerns.mono {x : Activity} (h : x.Concerns w j)
    (hjobs : ∀ c, w.jobOf? c = some j → w'.jobOf? c = some j) : x.Concerns w' j := by
  cases x with
  | fresh => exact h
  | summoned c => exact hjobs c h
  | pausing c => exact hjobs c h
  | calling c => exact ⟨hjobs c h.1, h.2⟩
  | joining s due next =>
    cases next with
    | showCell c => exact hjobs c h
    | showJob => exact h
    | shutdown => exact h
    | deliver => exact h
  | sleeping => exact h
  | finished => trivial

namespace World

/-! ### The registry -/

/-- A registry that names one container for a job at most, and one that is for that job. -/
structure Registered (w : World σ) : Prop where
  /-- A job has one container. -/
  keys : (w.registry.map (·.1)).Nodup
  /-- The container is the right one. -/
  jobs : ∀ j c, (j, c) ∈ w.registry → w.jobOf? c = some j

lemma Registered.lookup (h : w.Registered) {c : CellId} (hc : w.lookup? j = some c) :
    w.jobOf? c = some j := h.jobs j c (mem_of_lookup hc)

lemma registry_book (w : World σ) (b : Bookkeeping) :
    (w.book b).registry = w.registry ∨
      (∃ j, (w.book b).registry = w.registry.filter fun r => r.1 ≠ j) ∨ ∃ c j, b = .enter c j := by
  cases b with
  | keep | take | close | cancel => exact .inl rfl
  | supervise c j =>
    rcases w.book_supervise_cases c j with hbook | ⟨-, hbook⟩ <;> rw [hbook] <;> exact .inl rfl
  | forget j =>
    refine .inr (.inl ⟨j, ?_⟩)
    cases hs : w.supervisors.lookup j with
    | none => rw [book_forget_of_none hs]
    | some s => rw [book_forget_of_some hs]; rfl
  | dismiss j =>
    cases hs : w.supervisors.lookup j with
    | none => rw [book_dismiss_of_none hs]; exact .inl rfl
    | some s => rw [book_dismiss_of_some hs]; exact .inl rfl
  | enter c j => exact .inr (.inr ⟨c, j, rfl⟩)

lemma Booked.jobs {P : World σ → Bookkeeping → Prop} (h : Booked P w w') {c : CellId}
    (hc : w.jobOf? c = some j) : w'.jobOf? c = some j := by
  induction h with
  | keep hk => exact hk.jobs c j hc
  | book hk b _ _ _ ih => exact ih ((jobOf?_book _ b c).trans (hk.jobs c j hc))

/-- In a change the registry stays, or a job is forgotten, or a job that it did not name is
entered. -/
lemma registry_of_change {a : Action σ} {s : Option DialogueStep}
    (h : Change rules cluster w a s w') :
    w'.registry = w.registry ∨ (∃ j, w'.registry = w.registry.filter fun r => r.1 ≠ j) ∨
      ∃ j, w.lookup? j = none ∧ w'.jobOf? w.cells.length = some j ∧
        w'.registry = (j, w.cells.length) :: w.registry := by
  have hkeep : ∀ (w₁ : World σ) (b : Bookkeeping), w₁.registry = w.registry →
      (∀ c j, b ≠ .enter c j) → (w₁.book b).registry = w.registry ∨
        ∃ j, (w₁.book b).registry = w.registry.filter fun r => r.1 ≠ j := by
    intro w₁ b hregistry hne
    rcases w₁.registry_book b with hsame | ⟨j, hfilter⟩ | ⟨c, j, rfl⟩
    · exact .inl (hsame.trans hregistry)
    · exact .inr ⟨j, by rw [hfilter, hregistry]⟩
    · exact absurd rfl (hne c j)
  cases h with
  | doomed t =>
    obtain ⟨cells, hdrop, -⟩ := w.drop_eq t
    rw [hdrop]
    exact .inl rfl
  | dropped t =>
    obtain ⟨cells, hdrop, -⟩ := w.drop_eq t
    rw [hdrop]
    exact .inl rfl
  | begun t task ht hd request hact b a ho =>
    rcases hkeep w b rfl (by rintro c j rfl; cases ho) with hsame | hfilter
    · exact .inl hsame
    · exact .inr (.inl hfilter)
  | replied t task ht hd c stage p hact cell hc hr trigger c' events reply hu k =>
    have hne : ∀ c₀ j, p.booking c reply ≠ .enter c₀ j := by
      intro c₀ j
      rcases booking_cases c p reply with hb | ⟨shown, -, hb⟩ | ⟨j', shown, -, -, -, hb⟩ <;>
        rw [hb] <;> rintro ⟨⟩
    rcases hkeep (w.leave k c (handOn { cell with container := c' }) events) _ rfl hne with
      hsame | hfilter
    · exact .inl hsame
    · exact .inr (.inl hfilter)
  | created identity hnone => exact .inr (.inr ⟨_, hnone, w.jobOf?_new _, rfl⟩)
  | restored identity runId hd hnone =>
    refine .inr (.inr ⟨identity.jobId, hnone, (jobOf?_book _ _ _).trans (w.jobOf?_new _), ?_⟩)
    rcases (w.enter (.restore identity runId)).book_supervise_cases w.cells.length
      identity.jobId with hbook | ⟨-, hbook⟩ <;> rw [hbook] <;> rfl
  | _ => exact .inl rfl

lemma Registered.change (h : w.Registered) (hatt : w.Attentive rules.policy) {a : Action σ}
    {s : Option DialogueStep} (hchange : Change rules cluster w a s w') : w'.Registered := by
  have hjobs : ∀ {c : CellId} {j : JobId}, w.jobOf? c = some j → w'.jobOf? c = some j :=
    fun hc => (hatt.booked hchange).jobs hc
  rcases registry_of_change hchange with hsame | ⟨j, hfilter⟩ | ⟨j, hnone, hnew, hcons⟩
  · refine ⟨hsame ▸ h.keys, fun j c hmem => ?_⟩
    rw [hsame] at hmem
    exact hjobs (h.jobs j c hmem)
  · refine ⟨?_, fun j' c hmem => ?_⟩
    · rw [hfilter]
      exact h.keys.sublist (List.filter_sublist.map _)
    · rw [hfilter] at hmem
      exact hjobs (h.jobs j' c (List.mem_filter.1 hmem).1)
  · refine ⟨?_, fun j' c hmem => ?_⟩
    · rw [hcons, List.map_cons, List.nodup_cons]
      refine ⟨fun hj => ?_, h.keys⟩
      obtain ⟨e, he, rfl⟩ := List.mem_map.1 hj
      exact absurd rfl (bne_iff_ne.1 (List.lookup_eq_none_iff.1 hnone e he))
    · rw [hcons] at hmem
      rcases List.mem_cons.1 hmem with he | hmem
      · cases he
        exact hnew
      · exact hjobs (h.jobs j' c hmem)

/-- The registry of every run names one container for a job at most, and one for that job. -/
lemma registered_run (rules : Rules) (cluster : Cluster σ) (state : σ)
    (bus : EventBus ContainerEvent) (actions : List (Action σ)) :
    ((empty state bus).play rules cluster actions).Registered := by
  induction actions using List.reverseRecOn with
  | nil => exact ⟨List.nodup_nil, fun j c h => by cases h⟩
  | append_singleton actions a ih =>
    rw [play_concat]
    exact ih.change (attentive_run rules cluster state bus actions) (act_change rules cluster _ a)

/-! ### Tasks that work for a job -/

/-- A task that works for a job goes on with that. -/
lemma Registered.concerns (h : w.Registered) {t : TaskId} {s : Option DialogueStep}
    {x x' : Activity} (hprogress : Progress rules w t s w' x x')
    (hjobs : ∀ c, w.jobOf? c = some j → w'.jobOf? c = some j) (hx : x.Concerns w j) :
    x'.Concerns w' j := by
  refine Activity.Concerns.mono (w := w) ?_ hjobs
  cases hprogress with
  | idle => exact hx
  | dropped => trivial
  | begun request b x' ho =>
    cases ho with
    | refused | joinNothing | shutdownNobody => trivial
    | start j' c hd hc | stop j' c hc | status j' c hc | dismissNobody j' c hc
      | joinNobody j' c _ hc =>
      obtain rfl := Option.some.inj hx
      exact ⟨h.lookup hc, by rintro _ ⟨⟩⟩
    | release j' c hc =>
      obtain rfl := Option.some.inj hx
      exact ⟨h.lookup hc, by rintro _ ⟨⟩; rfl⟩
    | dismiss j' c hc =>
      obtain rfl := Option.some.inj hx
      exact h.lookup hc
    | join => exact Option.some.inj hx
    | shutdown | call | await | sleep => cases hx
  | moved w' x x' hm =>
    cases hm with
    | pause => exact hx
    | poll => exact ⟨hx, by rintro _ ⟨⟩⟩
    | comeBack => exact hx
    | showCell => exact ⟨hx, by rintro _ ⟨⟩⟩
    | showJob s due j' c hc =>
      obtain rfl : j' = j := hx
      exact ⟨h.lookup hc, by rintro _ ⟨⟩⟩
    | nextShutdown => cases hx
    | vanish | notFound | shutDown | deliver | wake => trivial
  | queued => exact hx
  | asked => exact hx
  | replied s ht w' stage htrigger k events reply hd =>
    rcases sequel_cases rules w s.cell s.purpose reply with ⟨r, hr⟩ | hr | ⟨due, hr⟩ <;> rw [hr]
    · trivial
    · exact ⟨hx.1, by rintro _ ⟨⟩⟩
    · exact hx.1
  | putOff => exact hx

/-- Whether a task polls a container of a job and has not ended. -/
def Supervises (w : World σ) (t : TaskId) (j : JobId) : Prop :=
  ∃ x c, w.activity? t = some x ∧ x.supervised? = some c ∧ w.jobOf? c = some j

/-- Whether a task of a run works for a job: on a request about it, or by polling it. -/
def WorksFor (rules : Rules) (cluster : Cluster σ) (w : World σ) (actions : List (Action σ))
    (t : TaskId) (j : JobId) : Prop :=
  (∃ request, (w.starters rules cluster actions)[t]? = some (.fresh request) ∧
    request.jobId? = some j) ∨ (w.play rules cluster actions).Supervises t j

lemma concerns_of_supervised? {x : Activity} {c : CellId} (h : x.supervised? = some c)
    (hc : w.jobOf? c = some j) : x.Concerns w j := by
  unfold Activity.supervised? at h
  split at h
  · exact Option.some.inj h ▸ hc
  · exact Option.some.inj h ▸ hc
  · exact ⟨Option.some.inj h ▸ hc, by rintro _ ⟨⟩⟩
  · exact ⟨Option.some.inj h ▸ hc, by rintro _ ⟨⟩⟩
  · cases h

/-- Whatever a task does that works for a job is about that job. -/
lemma concerns_of_worksFor {state : σ} {bus : EventBus ContainerEvent}
    {actions : List (Action σ)} {t : TaskId}
    (h : (empty state bus).WorksFor rules cluster actions t j)
    {x : Activity} (hx : ((empty state bus).play rules cluster actions).activity? t = some x) :
    x.Concerns ((empty state bus).play rules cluster actions) j := by
  rcases h with ⟨request, hstart, hj⟩ | ⟨y, c, hy, hc, hj⟩
  swap
  · cases hx.symm.trans hy
    exact concerns_of_supervised? hc hj
  induction actions using List.reverseRecOn generalizing x with
  | nil => cases hstart
  | append_singleton actions a ih =>
    have hatt := attentive_run rules cluster state bus actions
    have hchange := act_change rules cluster ((empty state bus).play rules cluster actions) a
    cases hx₀ : ((empty state bus).play rules cluster actions).activity? t with
    | none =>
      -- the task is new and has not begun
      rw [starters_concat_of_none hx₀ rfl, hx] at hstart
      obtain rfl := Option.some.inj hstart
      exact hj
    | some x₀ =>
      rw [starters_concat_of_some hx₀ rfl] at hstart
      rw [play_concat] at hx ⊢
      refine (registered_run rules cluster state bus actions).concerns
        (progress_of_change hchange hx₀ hx) (fun c hc => ?_) (ih hx₀ hstart)
      exact (hatt.booked hchange).jobs hc

/-! ### What stays as it is -/

/-- A job of which nothing changes from one world to another one. -/
structure Spared (j : JobId) (w w' : World σ) : Prop where
  /-- The registry names the same container for it, or none still. -/
  entry : w'.lookup? j = w.lookup? j
  /-- Its containers stay as they are, and so does who has the lock or waits for it. -/
  cells : ∀ c, w.jobOf? c = some j → w'.cell? c = w.cell? c
  /-- The tasks that poll them and have not ended stay as they are. -/
  tasks : ∀ t, w.Supervises t j → w'.task? t = w.task? t
  /-- They stay in the books, or out of them. -/
  books : ∀ t, w.Supervises t j → ((j, t) ∈ w'.supervisors ↔ (j, t) ∈ w.supervisors)

namespace Spared

lemma refl (w : World σ) : Spared j w w := ⟨rfl, fun _ _ => rfl, fun _ _ => rfl, fun _ _ => .rfl⟩

lemma jobOf? (h : Spared j w w') {c : CellId} (hc : w.jobOf? c = some j) :
    w'.jobOf? c = some j := by
  rw [World.jobOf?, container?, h.cells c hc]
  exact hc

lemma supervises (h : Spared j w w') {t : TaskId} (ht : w.Supervises t j) :
    w'.Supervises t j := by
  obtain ⟨x, c, hx, hc, hj⟩ := ht
  refine ⟨x, c, ?_, hc, h.jobOf? hj⟩
  rw [activity?, h.tasks t ⟨x, c, hx, hc, hj⟩]
  exact hx

lemma trans {w₁ w₂ : World σ} (h : Spared j w w₁) (h' : Spared j w₁ w₂) : Spared j w w₂ where
  entry := h'.entry.trans h.entry
  cells c hc := (h'.cells c (h.jobOf? hc)).trans (h.cells c hc)
  tasks t ht := (h'.tasks t (h.supervises ht)).trans (h.tasks t ht)
  books t ht := (h'.books t (h.supervises ht)).trans (h.books t ht)

lemma of_cells (hregistry : w'.registry = w.registry) (htasks : w'.tasks = w.tasks)
    (hsupervisors : w'.supervisors = w.supervisors)
    (hcells : ∀ c, w.jobOf? c = some j → w'.cell? c = w.cell? c) : Spared j w w' where
  entry := by rw [lookup?, hregistry, lookup?]
  cells := hcells
  tasks t _ := by rw [task?, htasks, task?]
  books t _ := by rw [hsupervisors]

lemma set {c : CellId} (hc : w.jobOf? c ≠ some j) (cell : Cell) :
    Spared j w { w with cells := w.cells.set c cell } :=
  of_cells rfl rfl rfl fun i hi => List.getElem?_set_ne (by rintro rfl; exact hc hi)

lemma addCell (w : World σ) (k : Container) : Spared j w (w.addCell k).1 := by
  refine of_cells rfl rfl rfl fun c hc => ?_
  obtain ⟨k', hk', -⟩ := Option.map_eq_some_iff.1 hc
  exact List.getElem?_append_left (lt_of_container? hk')

lemma modifyTask {t : TaskId} (ht : ¬ w.Supervises t j) (f : Task → Task) :
    Spared j w (w.modifyTask t f) where
  entry := rfl
  cells _ _ := rfl
  tasks i hi := by
    have hne : t ≠ i := by
      rintro rfl
      exact ht hi
    exact List.getElem?_modify_ne f w.tasks hne
  books _ _ := .rfl

lemma goOn {t : TaskId} (ht : ¬ w.Supervises t j) (a : Activity) : Spared j w (w.goOn t a) :=
  modifyTask ht _

lemma detach {t : TaskId} (ht : ¬ w.Supervises t j) : Spared j w (w.detach t) :=
  modifyTask ht _

lemma abort {t : TaskId} (ht : ¬ w.Supervises t j) : Spared j w (w.abort t) :=
  modifyTask ht _

lemma addTask (w : World σ) (a : Activity) : Spared j w (w.addTask a).1 where
  entry := rfl
  cells _ _ := rfl
  tasks t ht := by
    obtain ⟨x, c, hx, -⟩ := ht
    exact List.getElem?_append_left (lt_of_activity? hx)
  books _ _ := .rfl

/-- Other jobs come into the books or are taken out. -/
lemma of_books {registry : List (JobId × CellId)} {supervisors : List (JobId × TaskId)}
    (hregistry : registry.lookup j = w.lookup? j)
    (hsupervisors : ∀ t, w.Supervises t j → ((j, t) ∈ supervisors ↔ (j, t) ∈ w.supervisors)) :
    Spared j w { w with registry := registry, supervisors := supervisors } where
  entry := hregistry
  cells _ _ := rfl
  tasks _ _ := rfl
  books := hsupervisors

end Spared

lemma Tidy.not_supervises (h : w.Tidy) {j' : JobId} (hne : j' ≠ j) {t : TaskId}
    (ht : w.supervisors.lookup j' = some t) : ¬ w.Supervises t j := by
  rintro ⟨x, c, hx, hc, hj⟩
  obtain ⟨task, htask, hrest⟩ := h.entries j' t (mem_of_lookup ht)
  obtain rfl := Option.some.inj ((activity?_eq htask).symm.trans hx)
  rcases hrest with hf | ⟨-, c', hc', hj'⟩
  · exact Bool.false_ne_true ((not_isFinished_of_supervised? hc).symm.trans hf)
  · obtain rfl := Option.some.inj (hc.symm.trans hc')
    exact hne (Option.some.inj (hj'.symm.trans hj))

lemma hasFinished_of_supervises {t : TaskId} (h : w.Supervises t j) :
    w.hasFinished t = false := by
  obtain ⟨x, c, hx, hc, -⟩ := h
  obtain ⟨task, ht, rfl⟩ := Option.map_eq_some_iff.1 hx
  rw [hasFinished, ht]
  exact not_isFinished_of_supervised? hc

lemma Tidy.spared_book (h : w.Tidy) {b : Bookkeeping} (hb : b.Avoids j) :
    Spared j w (w.book b) := by
  have hprune : ∀ t, w.Supervises t j →
      ((j, t) ∈ w.prune.supervisors ↔ (j, t) ∈ w.supervisors) := by
    intro t ht
    rw [prune, List.mem_filter, and_iff_left]
    simp [hasFinished_of_supervises ht]
  cases b with
  | keep => exact .refl w
  | supervise c j' =>
    rcases w.book_supervise_cases c j' with hbook | ⟨-, hbook⟩ <;> rw [hbook]
    · exact .of_books rfl hprune
    · have hbooks : Spared j w
          { w with supervisors := (j', w.tasks.length) :: w.prune.supervisors } := by
        refine .of_books rfl fun t ht => ?_
        rw [List.mem_cons, hprune t ht, or_iff_right]
        rintro ⟨⟩
        exact hb rfl
      exact hbooks.trans (.addTask _ (.summoned c))
  | forget j' =>
    have hbooks : Spared j w { w with
        registry := w.registry.filter fun r => r.1 ≠ j',
        supervisors := w.supervisors.filter fun s => s.1 ≠ j' } :=
      .of_books (lookup_filter_ne _ hb) fun t _ => mem_filter_ne hb t
    cases hs : w.supervisors.lookup j' with
    | none =>
      rw [book_forget_of_none hs]
      exact hbooks
    | some s =>
      rw [book_forget_of_some hs]
      have hnot := h.not_supervises hb hs
      refine (hbooks.trans (.detach hnot)).trans (.abort ?_)
      rintro ⟨x, c, hx, hrest⟩
      rw [activity?_detach] at hx
      exact hnot ⟨x, c, hx, hrest⟩
  | dismiss j' =>
    have hbooks : Spared j w { w with supervisors := w.supervisors.filter fun s => s.1 ≠ j' } :=
      .of_books rfl fun t _ => mem_filter_ne hb t
    cases hs : w.supervisors.lookup j' with
    | none =>
      rw [book_dismiss_of_none hs]
      exact hbooks
    | some s =>
      rw [book_dismiss_of_some hs]
      exact hbooks.trans (.detach (h.not_supervises hb hs))
  | take j' => exact .of_books rfl fun t _ => mem_filter_ne hb t
  | close => cases hb
  | cancel => exact .of_cells rfl rfl rfl fun _ _ => rfl
  | enter c j' =>
    have hne : (j == j') = false := beq_eq_false_iff_ne.2 (Ne.symm hb)
    refine .of_books ?_ fun _ _ => .rfl
    rw [List.lookup_cons, hne]
    rfl

lemma not_supervises_of_concerns {t : TaskId} {x : Activity} (hx : w.activity? t = some x)
    {j' : JobId} (hne : j' ≠ j) (h : x.Concerns w j') : ¬ w.Supervises t j := by
  rintro ⟨y, c, hy, hc, hj⟩
  obtain rfl := Option.some.inj (hx.symm.trans hy)
  have hj' : w.jobOf? c = some j' := by
    cases x with
    | summoned => exact Option.some.inj hc ▸ h
    | pausing => exact Option.some.inj hc ▸ h
    | calling c' stage p =>
      cases p with
      | watch => exact Option.some.inj hc ▸ h.1
      | watchState => exact Option.some.inj hc ▸ h.1
      | _ => cases hc
    | _ => cases hc
  exact hne (Option.some.inj (hj'.symm.trans hj))

/-- A task that works for another job goes on after nothing changed for the job. -/
lemma Spared.goOn_of_concerns {w₁ : World σ} (h : Spared j w w₁) {t : TaskId} {x : Activity}
    (hx : w₁.activity? t = some x) {j' : JobId} (hne : j' ≠ j) (hconcerns : x.Concerns w j')
    (hjobs : ∀ c, w.jobOf? c = some j' → w₁.jobOf? c = some j') (a : Activity) :
    Spared j w (w₁.goOn t a) :=
  h.trans (.goOn (not_supervises_of_concerns hx hne (hconcerns.mono hjobs)) a)

lemma spared_drop {t : TaskId} {x : Activity} (hx : w.activity? t = some x)
    {j' : JobId} (hne : j' ≠ j) (h : x.Concerns w j') : Spared j w (w.drop t) := by
  obtain ⟨task, ht, rfl⟩ := Option.map_eq_some_iff.1 hx
  have hjobs : ∀ c, (w.drop t).jobOf? c = w.jobOf? c := fun c =>
    congrArg (Option.map _) (w.container?_drop t c)
  obtain ⟨activity, detached, aborted⟩ := task
  unfold drop finish at hjobs ⊢
  rw [ht] at hjobs ⊢
  cases activity with
  | calling c stage p =>
    -- it gives its lock or its place in the queue back
    have hc : w.jobOf? c ≠ some j := fun hj => hne (Option.some.inj (h.1.symm.trans hj))
    have hcells : Spared j w (w.modifyCell c (withdraw t)) := by
      refine .of_cells rfl rfl rfl fun i hi => ?_
      have hci : c ≠ i := by
        rintro rfl
        exact hc hi
      simp [cell?, modifyCell, hci]
    exact hcells.goOn_of_concerns hx hne h (fun i hi => (hjobs i).trans hi) _
  | _ => exact (Spared.refl w).goOn_of_concerns hx hne h (fun _ hi => hi) _

lemma spared_leave {c : CellId} (hc : w.jobOf? c ≠ some j) (k : σ) (cell : Cell)
    (events : List EventPayload) : Spared j w (w.leave k c cell events) :=
  .of_cells rfl rfl rfl (Spared.set hc cell).cells

/-- A task that works for another job talks about its container and goes on. -/
lemma spared_leave_goOn {c : CellId} {cell : Cell} {events : List EventPayload} {k : σ}
    (hkeeps : Keeps w (w.leave k c cell events)) {t : TaskId} {stage : CallStage} {p : Purpose}
    (hx : w.activity? t = some (.calling c stage p)) {j' : JobId} (hne : j' ≠ j)
    (hconcerns : (Activity.calling c stage p).Concerns w j') (a : Activity) :
    Spared j w ((w.leave k c cell events).goOn t a) := by
  have hc : w.jobOf? c ≠ some j := fun hj => hne (Option.some.inj (hconcerns.1.symm.trans hj))
  exact (spared_leave hc k cell events).goOn_of_concerns hx hne hconcerns
    (fun i => hkeeps.jobs i j') a

lemma Opening.avoids {request : Request} {b : Bookkeeping} {a : Activity}
    (h : Opening rules w request b a) {j' : JobId} (hj' : request.jobId? = some j')
    (hne : j' ≠ j) : b.Avoids j := by
  cases h with
  | dismiss | dismissNobody | join | joinNobody | joinNothing =>
    obtain rfl := Option.some.inj hj'
    exact hne
  | shutdown | shutdownNobody => cases hj'
  | _ => trivial

/-- What is done to the books after a reply to a call about another job is done for that job. -/
lemma avoids_booking {c : CellId} {p : Purpose} {reply : CallReply} {j' : JobId}
    (hsound : w.Sound (p.booking c reply)) (hc : w.jobOf? c = some j') (hne : j' ≠ j)
    (hp : ∀ j'', p = .release j'' → j'' = j') : (p.booking c reply).Avoids j := by
  rcases booking_cases c p reply with hb | ⟨shown, -, hb⟩ | ⟨j'', shown, hpurpose, -, -, hb⟩
  · rw [hb]
    trivial
  · rw [hb] at hsound ⊢
    obtain rfl := Option.some.inj (hc.symm.trans hsound)
    exact hne
  · rw [hb]
    exact hp j'' hpurpose ▸ hne

/-- A task that works for another job has its reply, and the books are kept. -/
lemma spared_reply (htidy : w.Tidy) {c : CellId} {cell : Cell} (hc : w.cell? c = some cell)
    {trigger : Trigger} {c' : Container} {events : List EventPayload} {reply : CallReply}
    (hexchange : Exchange rules.policy cell.container trigger (.done ⟨c', events, .reply reply⟩))
    {t : TaskId} {stage : CallStage} {p : Purpose}
    (hx : w.activity? t = some (.calling c stage p)) {j' : JobId} (hne : j' ≠ j)
    (hconcerns : (Activity.calling c stage p).Concerns w j') (k : σ) (a : Activity) :
    Spared j w (((w.leave k c (handOn { cell with container := c' }) events).book
      (p.booking c reply)).goOn t a) := by
  obtain ⟨hj', hp⟩ := id hconcerns
  have hkeeps := Keeps.leave_handOn hc hexchange.identity k events
  have hleave : Spared j w (w.leave k c (handOn { cell with container := c' }) events) :=
    spared_leave (fun hj => hne (Option.some.inj (hj'.symm.trans hj))) k _ events
  have havoids := avoids_booking (sound_leave hc hexchange p k) (hkeeps.jobs c j' hj') hne hp
  have hleft : (w.leave k c (handOn { cell with container := c' }) events).activity? t =
    some (.calling c stage p) := hx
  exact (hleave.trans ((htidy.keeps hkeeps).spared_book havoids)).goOn_of_concerns
    (activity?_book_of hleft _) hne hconcerns
    (fun i hi => (jobOf?_book _ _ i).trans (hkeeps.jobs i j' hi)) a

/-- What a task does that works for another job, and what is done for new containers of other
jobs. -/
lemma spared_of_change (htidy : w.Tidy) (hatt : w.Attentive rules.policy) {a : Action σ}
    {s : Option DialogueStep} (h : Change rules cluster w a s w')
    (htask : ∀ t, a = .step t ∨ a = .drop t → ∃ j', j' ≠ j ∧
      ∀ x, w.activity? t = some x → x.Concerns w j')
    (hnew : ∀ identity, a = .create identity ∨ (∃ r, a = .restore identity r) →
      identity.jobId ≠ j) : Spared j w w' := by
  have hworks : ∀ {t : TaskId} {x : Activity}, a = .step t → w.activity? t = some x →
      ∃ j', j' ≠ j ∧ x.Concerns w j' := by
    intro t x ha hx
    obtain ⟨j', hne, hconcerns⟩ := htask t (.inl ha)
    exact ⟨j', hne, hconcerns x hx⟩
  cases h with
  | nothing => exact .refl w
  | doomed t task ht hf hd =>
    obtain ⟨j', hne, hconcerns⟩ := htask t (.inl rfl)
    exact spared_drop (activity?_eq ht) hne (hconcerns _ (activity?_eq ht))
  | dropped t task ht hf hs =>
    obtain ⟨j', hne, hconcerns⟩ := htask t (.inr rfl)
    exact spared_drop (activity?_eq ht) hne (hconcerns _ (activity?_eq ht))
  | begun t task ht hd request hact b a ho =>
    have hx := activity?_eq ht
    rw [hact] at hx
    obtain ⟨j', hne, hconcerns⟩ := hworks rfl hx
    have hbook := htidy.spared_book (Opening.avoids ho hconcerns hne)
    exact hbook.goOn_of_concerns (activity?_book_of hx b) hne hconcerns
      (fun c hc => (jobOf?_book w b c).trans hc) a
  | moved t a a' ha hm =>
    obtain ⟨j', hne, hconcerns⟩ := hworks rfl ha
    exact (Spared.refl w).goOn_of_concerns ha hne hconcerns (fun _ hc => hc) a'
  | queued t c e p ha cell hc hl =>
    obtain ⟨j', hne, hconcerns⟩ := hworks rfl ha
    have hother : w.jobOf? c ≠ some j := fun hj =>
      hne (Option.some.inj (hconcerns.1.symm.trans hj))
    have hset := Spared.set hother { cell with queue := cell.queue ++ [t] }
    exact hset.goOn_of_concerns ha hne hconcerns
      (fun i hi => (jobOf?_set hc { cell with queue := cell.queue ++ [t] } rfl).trans hi) _
  -- whoever talks is about a container of another job, which stays with that job
  | asked t task ht hd c stage p hact cell hc hr trigger c' events q next hu k due =>
    have hx := activity?_eq ht
    rw [hact] at hx
    obtain ⟨j', hne, hconcerns⟩ := hworks rfl hx
    have hexchange := (hatt.always_utterance hx hc hu).head
    exact spared_leave_goOn (.leave hc hexchange.identity k events) hx hne hconcerns _
  | replied t task ht hd c stage p hact cell hc hr trigger c' events reply hu k =>
    have hx := activity?_eq ht
    rw [hact] at hx
    obtain ⟨j', hne, hconcerns⟩ := hworks rfl hx
    exact spared_reply htidy hc (hatt.always_utterance hx hc hu).head hx hne hconcerns k _
  | putOff t task ht hd c stage p hact cell hc hr trigger c' events delay e hu k stage' hs =>
    have hx := activity?_eq ht
    rw [hact] at hx
    obtain ⟨j', hne, hconcerns⟩ := hworks rfl hx
    have hexchange := (hatt.always_utterance hx hc hu).head
    exact spared_leave_goOn (.leave_handOn hc hexchange.identity k events) hx hne hconcerns _
  | requested request => exact .addTask w _
  | created identity hnone =>
    have hne := hnew identity (.inl rfl)
    exact (Spared.addCell w _).trans
      ((htidy.keeps (.addCell w _)).spared_book (b := .enter _ _) hne)
  | restored identity runId hd hnone =>
    have hne := hnew identity (.inr ⟨runId, rfl⟩)
    have htidy₁ : (w.addCell (.restore identity runId)).1.Tidy := htidy.keeps (.addCell w _)
    have hsound : (w.addCell (.restore identity runId)).1.Sound
        (.enter w.cells.length identity.jobId) := w.jobOf?_new _
    exact ((Spared.addCell w _).trans (htidy₁.spared_book (b := .enter _ _) hne)).trans
      ((htidy₁.book hsound).spared_book (b := .supervise _ _) hne)
  | shared identity runId container => exact .addCell w container
  | cancelled => exact .of_cells rfl rfl rfl fun _ _ => rfl
  | drifted => exact .of_cells rfl rfl rfl fun _ _ => rfl

/-! ### Runs -/

/-- Whether an action of a run is for other jobs than one: a task goes on or is dropped that works
for another job, a container comes in for another job, or none of these. -/
def IsElsewhere (rules : Rules) (cluster : Cluster σ) (w : World σ) (before : List (Action σ))
    (j : JobId) : Action σ → Prop
  | .step t | .drop t => ∃ j', j' ≠ j ∧ w.WorksFor rules cluster before t j'
  | .create identity | .restore identity _ => identity.jobId ≠ j
  | .request _ | .share .. | .cancel | .pass _ | .shift _ => True

/-- A run in which every job has its own place. -/
structure KeepsJobsApart (rules : Rules) (cluster : Cluster σ) (w : World σ)
    (actions : List (Action σ)) : Prop where
  /-- The registry names one container for a job at most. -/
  single : ((w.play rules cluster actions).registry.map (·.1)).Nodup
  /-- It is a container whose identity has the id of the job. -/
  own : ∀ j c, (j, c) ∈ (w.play rules cluster actions).registry →
    ∃ k, (w.play rules cluster actions).container? c = some k ∧ k.identity.jobId = j
  /-- A job that is registered is not entered again: there is an error, and nothing changes. -/
  refused : ∀ identity, (w.play rules cluster actions).lookup? identity.jobId ≠ none →
    (w.play rules cluster actions).create identity = .error (.alreadyExists identity.jobId) ∧
    w.play rules cluster (actions ++ [.create identity]) = w.play rules cluster actions ∧
    ∀ r, (w.play rules cluster actions).restore identity r =
        .error (if (w.play rules cluster actions).shutDown then .shutDown
          else .alreadyExists identity.jobId) ∧
      w.play rules cluster (actions ++ [.restore identity r]) = w.play rules cluster actions
  /-- While all that happens is for other jobs, nothing changes for a job. -/
  spared : ∀ j first later, actions = first ++ later →
    (∀ k a, later[k]? = some a → w.IsElsewhere rules cluster (first ++ later.take k) j a) →
    Spared j (w.play rules cluster first) (w.play rules cluster actions)

/-- A job that is registered is not entered again. -/
lemma refused_of_lookup? {identity : JobIdentity} (h : w.lookup? identity.jobId ≠ none) :
    w.create identity = .error (.alreadyExists identity.jobId) ∧ ∀ r, w.restore identity r =
      .error (if w.shutDown then .shutDown else .alreadyExists identity.jobId) := by
  obtain ⟨c, hc⟩ := Option.ne_none_iff_exists'.1 h
  refine ⟨?_, fun r => ?_⟩
  · rw [World.create, insert_of_lookup? (c := c) hc]
    rfl
  · rw [World.restore]
    split
    · rfl
    · rw [insert_of_lookup? (c := c) hc]
      rfl

/-- What happens for other jobs in one action of a run. -/
lemma spared_act {state : σ} {bus : EventBus ContainerEvent} {actions : List (Action σ)}
    {a : Action σ} (h : (empty state bus).IsElsewhere rules cluster actions j a) :
    Spared j ((empty state bus).play rules cluster actions)
      ((empty state bus).play rules cluster (actions ++ [a])) := by
  rw [play_concat]
  refine spared_of_change (tidy_run rules cluster state bus actions)
    (attentive_run rules cluster state bus actions) (act_change rules cluster _ a) ?_ ?_
  · rintro t (rfl | rfl)
    all_goals
      obtain ⟨j', hne, hworks⟩ := h
      exact ⟨j', hne, fun x hx => concerns_of_worksFor hworks hx⟩
  · rintro identity (rfl | ⟨r, rfl⟩) <;> exact h

/-- In every run the registry names one container for a job at most, and one for that job, no job
is entered twice, and what is done for some jobs changes nothing for the others. -/
theorem keepsJobsApart_run (rules : Rules) (cluster : Cluster σ) (state : σ)
    (bus : EventBus ContainerEvent) (actions : List (Action σ)) :
    KeepsJobsApart rules cluster (empty state bus) actions := by
  have hregistered := registered_run rules cluster state bus actions
  constructor
  case single => exact hregistered.keys
  case own =>
    intro j c hmem
    exact Option.map_eq_some_iff.1 (hregistered.jobs j c hmem)
  case refused =>
    intro identity hidentity
    obtain ⟨hcreate, hrestore⟩ := refused_of_lookup? hidentity
    refine ⟨hcreate, ?_, fun r => ⟨hrestore r, ?_⟩⟩
    · rw [play_concat, act, hcreate]
      rfl
    · rw [play_concat, act, hrestore]
      rfl
  case spared =>
    rintro j first later rfl hlater
    induction later using List.reverseRecOn with
    | nil =>
      rw [List.append_nil]
      exact .refl _
    | append_singleton later a ih =>
      have hprefix := ih (registered_run rules cluster state bus _) fun k b hb => ?_
      · refine hprefix.trans ?_
        rw [← List.append_assoc]
        have hlast := hlater later.length a (by simp)
        rw [List.take_left] at hlast
        exact spared_act hlast
      · have hlt := (List.getElem?_eq_some_iff.1 hb).1
        have hk := hlater k b (by rw [List.getElem?_append_left hlt, hb])
        rwa [List.take_append_of_le_length (Nat.le_of_lt hlt)] at hk

end World

end JobSupervision.Supervision
