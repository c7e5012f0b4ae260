/-
# Containers that are started

A container that is started is polled from then on: a new task comes to watch it, or one does so
already.  But the books know tasks by their jobs, and where they name a task that polls another
container of the job, none is started (`IsMisled`).  This is the one way for polling to be given up
early (`neverGivesUp_iff`), and it takes a release that forgot the job of a container which it had
not looked at (`exists_isStale_of_isMisled`): up to then the books agree with the registry
(`Agreed`).
-/
import JobSupervision.Proofs.Supervision.Independence
import JobSupervision.Proofs.Supervision.Watching

namespace JobSupervision.Supervision

variable {σ : Type} {rules : Rules} {cluster : Cluster σ} {w w' : World σ}

namespace World

/-! ### Containers that are started -/

lemma Watches.of_tasks {t : TaskId} {c : CellId} (h : w.Watches t c)
    (htasks : w'.tasks = w.tasks) : w'.Watches t c := by
  obtain ⟨task, ht, hrest⟩ := h
  exact ⟨task, by rwa [task?, htasks], hrest⟩

lemma watches_goOn_of_ne {u t : TaskId} (h : u ≠ t) (a : Activity) (c : CellId) :
    (w.goOn u a).Watches t c ↔ w.Watches t c := by
  rw [Watches, Watches, task?_goOn, if_neg h]

lemma not_watches_goOn_finished (t : TaskId) (r : TaskResult) (c : CellId) :
    ¬ (w.goOn t (.finished r)).Watches t c := by
  rintro ⟨task', ht', hs, -⟩
  rw [task?_goOn, if_pos rfl] at ht'
  obtain ⟨task, -, rfl⟩ := Option.map_eq_some_iff.1 ht'
  cases hs

/-- A container is polled by a new task from now on, unless the books name a task for the job that
has not ended. -/
lemma tasks_supervise (w : World σ) (c : CellId) (j : JobId) :
    (w.book (.supervise c j)).tasks = w.tasks ++ [{ activity := .summoned c }] ∧
        (∀ t, (j, t) ∈ w.supervisors → w.hasFinished t = true) ∨
      (w.book (.supervise c j)).tasks = w.tasks ∧
        ∃ t, (j, t) ∈ w.supervisors ∧ w.hasFinished t = false := by
  cases ht : w.prune.supervisors.lookup j with
  | none =>
    refine .inl ⟨?_, fun t hmem => ?_⟩
    · simp only [book, supervise, ht, Option.isSome_none, Bool.false_eq_true, if_false]
      rfl
    · by_contra hopen
      have hpruned : (j, t) ∈ w.prune.supervisors :=
        List.mem_filter.2 ⟨hmem, by simpa using hopen⟩
      exact absurd rfl (bne_iff_ne.1 (List.lookup_eq_none_iff.1 ht _ hpruned))
  | some t =>
    refine .inr ⟨?_, t, ?_⟩
    · simp only [book, supervise, ht, Option.isSome_some, if_true]
      rfl
    · obtain ⟨hmem, hopen⟩ := List.mem_filter.1 (mem_of_lookup ht)
      exact ⟨hmem, by simpa using hopen⟩

/-- When the start of a container shows that it has not ended, the books are asked for a task that
polls it. -/
lemma supervise_of_start {a : Action σ} {s : DialogueStep}
    (h : Change rules cluster w a (some s) w')
    (hpurpose : s.purpose = .start) {shown : Snapshot}
    (hreply : s.reply? = some (.ok (.snapshot shown))) (hopen : shown.state.isTerminal = false) :
    ∃ w₁ : World σ, w₁.tasks = w.tasks ∧ w₁.supervisors = w.supervisors ∧
      w₁.shutDown = w.shutDown ∧
      w' = (w₁.book (.supervise s.cell shown.jobId)).goOn s.task
        (.finished (.ok (.call (.snapshot shown)))) := by
  cases h with
  | asked => cases hreply
  | replied t task ht hd c stage p hact cell hc hr trigger c' events reply hu k =>
    obtain rfl : p = .start := hpurpose
    obtain rfl : reply = .ok (.snapshot shown) := by
      simpa [DialogueStep.reply?, Dialogue.result?] using hreply
    have hbooking : Purpose.start.booking c (.ok (.snapshot shown)) =
        .supervise c shown.jobId := if_neg (by simp [hopen])
    rw [hbooking]
    exact ⟨w.leave k c (handOn { cell with container := c' }) events, rfl, rfl, rfl, rfl⟩
  | putOff => cases hreply

/-- Whether a container is started, though nobody polls it and nobody comes to poll it, because
the books name a task for the job that polls another container. -/
def IsMisled (rules : Rules) (cluster : Cluster σ) (w : World σ) (a : Action σ) : Prop :=
  ∃ s shown t c, w.dialogueStepOf? rules cluster a = some s ∧ s.purpose = .start ∧
    s.reply? = some (.ok (.snapshot shown)) ∧ shown.state.isTerminal = false ∧
    w.shutDown = false ∧ (shown.jobId, t) ∈ w.supervisors ∧ w.Watches t c ∧ c ≠ s.cell ∧
    ∀ i, ¬ w.Watches i s.cell

/-- A task that is in the books and has not ended watches a container. -/
lemma exists_watches_of_mem {state : σ} {bus : EventBus ContainerEvent}
    {actions : List (Action σ)} {j : JobId} {t : TaskId}
    (hmem : (j, t) ∈ ((empty state bus).play rules cluster actions).supervisors)
    (hopen : ((empty state bus).play rules cluster actions).hasFinished t = false) :
    ∃ c, ((empty state bus).play rules cluster actions).Watches t c := by
  obtain ⟨task, ht, hrest⟩ := (tidy_run rules cluster state bus actions).entries j t hmem
  rw [hasFinished, ht] at hopen
  obtain ⟨hd, c, hs, -⟩ := hrest.resolve_left (by simp [hopen])
  refine ⟨c, task, ht, hs, hd, ?_⟩
  rw [← Bool.not_eq_true]
  intro haborted
  cases hd.symm.trans (detached_of_aborted ht haborted)

/-- A container that is started and has not ended is watched from then on, unless the books
mislead. -/
lemma exists_watches_of_start {state : σ} {bus : EventBus ContainerEvent}
    {actions : List (Action σ)} {a : Action σ} {s : DialogueStep}
    (hs : ((empty state bus).play rules cluster actions).dialogueStepOf? rules cluster a = some s)
    (hpurpose : s.purpose = .start) {shown : Snapshot}
    (hreply : s.reply? = some (.ok (.snapshot shown))) (hopen : shown.state.isTerminal = false)
    (hdown : ((empty state bus).play rules cluster actions).shutDown = false)
    (hnot : ¬ ((empty state bus).play rules cluster actions).IsMisled rules cluster a) :
    ∃ t, ((empty state bus).play rules cluster (actions ++ [a])).Watches t s.cell := by
  have hchange := act_change rules cluster ((empty state bus).play rules cluster actions) a
  rw [hs, ← play_concat] at hchange
  obtain ⟨stage, hcalling, -⟩ := activity?_of_dialogueStep hchange
  obtain ⟨w₁, htasks, hsupervisors, -, hworld⟩ := supervise_of_start hchange hpurpose hreply hopen
  rw [hworld]
  rcases tasks_supervise w₁ s.cell shown.jobId with ⟨hnew, -⟩ | ⟨hsame, t, hmem, hunfinished⟩
  · have hlt := lt_of_activity? hcalling
    rw [← htasks] at hlt
    refine ⟨w₁.tasks.length, (watches_goOn_of_ne (Nat.ne_of_lt hlt) _ _).2 ?_⟩
    exact ⟨{ activity := .summoned s.cell }, by rw [task?, hnew]; simp, rfl, rfl, rfl⟩
  · rw [hsupervisors] at hmem
    have hfinished : ((empty state bus).play rules cluster actions).hasFinished t = false := by
      rwa [hasFinished, task?, ← htasks]
    -- some task watches the container already, or the one in the books watches another one
    obtain ⟨i, hi⟩ : ∃ i, ((empty state bus).play rules cluster actions).Watches i s.cell := by
      by_contra hnobody
      obtain ⟨c, hc⟩ := exists_watches_of_mem hmem hfinished
      refine hnot ⟨s, shown, t, c, hs, hpurpose, hreply, hopen, hdown, hmem, hc, ?_,
        fun i hi => hnobody ⟨i, hi⟩⟩
      rintro rfl
      exact hnobody ⟨t, hc⟩
    have hne : s.task ≠ i := by
      rintro rfl
      obtain ⟨task, ht, hsupervised, -⟩ := hi
      rw [activity?_eq ht, Option.some.injEq] at hcalling
      rw [hcalling, hpurpose] at hsupervised
      cases hsupervised
    exact ⟨i, (watches_goOn_of_ne hne _ _).2 (hi.of_tasks (hsame.trans htasks))⟩

lemma Watches.hasFinished {t : TaskId} {c : CellId} (h : w.Watches t c) :
    w.hasFinished t = false := by
  obtain ⟨task, ht, hs, -⟩ := h
  rw [World.hasFinished, ht]
  exact not_isFinished_of_supervised? hs

/-- A start that is misled leaves its container without a task that watches it. -/
lemma not_watches_of_misled {a : Action σ} {s : DialogueStep}
    (h : Change rules cluster w a (some s) w') (hpurpose : s.purpose = .start) {shown : Snapshot}
    (hreply : s.reply? = some (.ok (.snapshot shown))) (hopen : shown.state.isTerminal = false)
    {t : TaskId} (hmem : (shown.jobId, t) ∈ w.supervisors) (hunfinished : w.hasFinished t = false)
    (hnobody : ∀ i, ¬ w.Watches i s.cell) (i : TaskId) : ¬ w'.Watches i s.cell := by
  obtain ⟨w₁, htasks, hsupervisors, -, rfl⟩ := supervise_of_start h hpurpose hreply hopen
  by_cases hi : s.task = i
  · subst hi
    exact not_watches_goOn_finished _ _ _
  rw [watches_goOn_of_ne hi]
  rcases tasks_supervise w₁ s.cell shown.jobId with ⟨-, hfinished⟩ | ⟨hsame, -⟩
  · have ht := hfinished t (hsupervisors ▸ hmem)
    rw [hasFinished, task?, htasks] at ht
    cases ht.symm.trans hunfinished
  · exact fun hwatches => hnobody i (hwatches.of_tasks (hsame.trans htasks).symm)

/-! ### Runs -/

/-- What a run owes to those who rely on the polling of their containers. -/
structure NeverGivesUp (rules : Rules) (cluster : Cluster σ) (w : World σ)
    (actions : List (Action σ)) : Prop where
  /-- A polling task has ended only if there is a reason for it. -/
  ended : ∀ n t c r, (w.starters rules cluster (actions.take n))[t]? = some (.summoned c) →
    (w.play rules cluster (actions.take n)).activity? t = some (.finished r) →
      (w.play rules cluster (actions.take n)).MayEnd t c
  /-- Whatever it hears when it polls the container or looks at it, it goes on unless it is shown
  the end of the container. -/
  undeterred : ∀ n a s reply, actions[n]? = some a →
    (w.play rules cluster (actions.take n)).dialogueStepOf? rules cluster a = some s →
    s.purpose = .watch ∨ s.purpose = .watchState → s.reply? = some reply →
    showsEnd reply = false →
      ∃ x, (w.play rules cluster (actions.take (n + 1))).activity? s.task = some x ∧
        x.supervised? = some s.cell
  /-- A start that has shown the container before its end leaves a task that watches it, and
  does so until there is a reason to end. -/
  started : ∀ n u c stage shown,
    (w.play rules cluster (actions.take n)).activity? u = some (.calling c stage .start) →
    (w.play rules cluster (actions.take (n + 1))).activity? u =
      some (.finished (.ok (.call (.snapshot shown)))) →
    shown.state.isTerminal = false →
    (w.play rules cluster (actions.take (n + 1))).shutDown = false →
      ∃ t, (w.play rules cluster (actions.take (n + 1))).Watches t c ∧
        ∀ m > n, (w.play rules cluster (actions.take m)).Watches t c ∨
          (w.play rules cluster (actions.take m)).MayEnd t c

/-- A polling task that is not shown the end of the container goes on. -/
lemma supervised?_of_reply {a : Action σ} {s : DialogueStep}
    (h : Change rules cluster w a (some s) w')
    (hpurpose : s.purpose = .watch ∨ s.purpose = .watchState) {reply : CallReply}
    (hreply : s.reply? = some reply) (hopen : showsEnd reply = false) :
    ∃ x, w'.activity? s.task = some x ∧ x.supervised? = some s.cell := by
  cases h with
  | asked => cases hreply
  | putOff => cases hreply
  | replied t task ht hd c stage p hact cell hc hr trigger c' events reply' hu k =>
    obtain rfl : reply' = reply := by simpa [DialogueStep.reply?, Dialogue.result?] using hreply
    have hleave : (w.leave k c (handOn { cell with container := c' }) events).activity? t =
      some task.activity := activity?_eq ht
    refine ⟨_, activity?_goOn_of_some (activity?_book_of hleave _) _, ?_⟩
    obtain rfl | rfl : p = .watch ∨ p = .watchState := hpurpose
    · rcases reply' with e | v
      · rfl
      · simp [sequel, hopen, Activity.supervised?]
    · simp [sequel, hopen, Activity.supervised?]

/-- A start that ends with the container does so by what it says. -/
lemma dialogueStep_of_start {a : Action σ} {s : Option DialogueStep}
    (h : Change rules cluster w a s w')
    {u : TaskId} {c : CellId} {stage : CallStage} {shown : Snapshot}
    (hx : w.activity? u = some (.calling c stage .start))
    (hr : w'.activity? u = some (.finished (.ok (.call (.snapshot shown))))) :
    ∃ s', s = some s' ∧ s'.cell = c ∧ s'.task = u ∧ s'.purpose = .start ∧
      s'.reply? = some (.ok (.snapshot shown)) := by
  have hprogress := progress_of_change h hx hr
  generalize hcalling : Activity.calling c stage .start = x at hprogress
  generalize hfinished : Activity.finished (.ok (.call (.snapshot shown))) = x' at hprogress
  cases hprogress with
  | idle => cases hcalling.trans hfinished.symm
  | dropped => cases hfinished
  | begun => cases hcalling
  | moved w' x x' hm =>
    subst hcalling
    cases hm with
    | vanish | comeBack => cases hfinished
  | replied s' ht w' stage htrigger k events reply hd =>
    obtain ⟨hc, -, hp⟩ := Activity.calling.inj hcalling
    refine ⟨s', rfl, hc.symm, ht, hp.symm, ?_⟩
    rw [← hp] at hfinished
    have hreply := Activity.finished.inj hfinished
    rw [DialogueStep.reply?, hd]
    rcases reply with e | v
    · cases hreply
    · cases hreply
      rfl
  | _ => cases hfinished

/-- In every run, polling goes on until there is a reason for it to end exactly if no start is
misled by the books. -/
theorem neverGivesUp_iff (rules : Rules) (cluster : Cluster σ) (state : σ)
    (bus : EventBus ContainerEvent) (actions : List (Action σ)) :
    let w := empty state bus
    NeverGivesUp rules cluster w actions ↔
      ∀ n a, actions[n]? = some a →
        ¬ (w.play rules cluster (actions.take n)).IsMisled rules cluster a := by
  intro w
  have hchange := fun n a => act_change rules cluster (w.play rules cluster (actions.take n)) a
  constructor
  · rintro h n a ha ⟨s, shown, t, c, hs, hpurpose, hreply, hopen, hdown, hmem, ht, -, hnobody⟩
    have hsaid := hchange n a
    rw [hs, ← play_take_succ rules cluster w ha] at hsaid
    obtain ⟨stage, hcalling, -⟩ := activity?_of_dialogueStep hsaid
    obtain ⟨w₁, htasks, -, hdown₁, hworld⟩ := supervise_of_start hsaid hpurpose hreply hopen
    have hresult : (w.play rules cluster (actions.take (n + 1))).activity? s.task =
        some (.finished (.ok (.call (.snapshot shown)))) := by
      rw [hworld]
      refine activity?_goOn_of_some
        (activity?_book_of (x := .calling s.cell stage s.purpose) ?_ _) _
      rwa [activity?, task?, htasks]
    have hdown' : (w.play rules cluster (actions.take (n + 1))).shutDown = false := by
      rw [hworld]
      rcases w₁.book_supervise_cases s.cell shown.jobId with hbook | ⟨-, hbook⟩ <;> rw [hbook] <;>
        exact hdown₁.trans hdown
    rw [hpurpose] at hcalling
    obtain ⟨i, hi, -⟩ := h.started n s.task s.cell stage shown hcalling hresult hopen hdown'
    exact not_watches_of_misled hsaid hpurpose hreply hopen hmem ht.hasFinished hnobody i hi
  · intro hnot
    refine ⟨fun n t c r ht hr => ?_, fun n a s reply ha hs hpurpose hreply hopen => ?_,
      fun n u c stage shown hu hr hopen hdown => ?_⟩
    · exact (watches_or_mayEnd_of_starters ht).resolve_left fun hwatches =>
        hwatches.not_finished r hr
    · have hsaid := hchange n a
      rw [hs, ← play_take_succ rules cluster w ha] at hsaid
      exact supervised?_of_reply hsaid hpurpose hreply hopen
    · cases ha : actions[n]? with
      | none =>
        rw [List.take_add_one, ha, Option.toList_none, List.append_nil, hu] at hr
        cases hr
      | some a =>
        have hsaid := hchange n a
        rw [← play_take_succ rules cluster w ha] at hsaid
        obtain ⟨s, hs, rfl, -, hpurpose, hreply⟩ := dialogueStep_of_start hsaid hu hr
        have hdown₀ : (w.play rules cluster (actions.take n)).shutDown = false := by
          rw [← Bool.not_eq_true]
          intro hdown₀
          cases hdown.symm.trans (shutDown_of_change hsaid hdown₀)
        obtain ⟨t, ht⟩ := exists_watches_of_start hs hpurpose hreply hopen hdown₀ (hnot n a ha)
        have htake : actions.take (n + 1) = actions.take n ++ [a] := by
          rw [List.take_add_one, ha, Option.toList_some]
        rw [← htake] at ht
        refine ⟨t, ht, fun m hm => ?_⟩
        obtain ⟨i, rfl⟩ := Nat.exists_eq_add_of_le (Nat.succ_le_of_lt hm)
        rw [List.take_add]
        exact Watches.play (.inl ht) _

/-- Two releases of a job cross, and the second one forgets its new container while that is being
submitted.  So the polling task of that container is entered for the job though the job has no
container, and it is still in the books when the job is entered and started once more. -/
def startAfterCrossedReleases : List (Action Unit) :=
  [.restore (.bare ⟨"a"⟩) ⟨"r"⟩, .request (.stop ⟨"a"⟩), .step 1, .step 1,
    .request (.release ⟨"a"⟩), .step 2, .step 2, .request (.release ⟨"a"⟩), .step 3, .step 3,
    .step 1, .step 2, .create (.bare ⟨"a"⟩), .request (.start ⟨"a"⟩), .step 4, .step 4, .step 3,
    .step 4, .create (.bare ⟨"a"⟩), .request (.start ⟨"a"⟩), .step 6, .step 6, .step 6]

/-- The last start has submitted the job, and no task polls the container. -/
theorem not_neverGivesUp_startAfterCrossedReleases :
    ¬ NeverGivesUp ⟨.standard, .standard⟩ .oblivious (empty () ⟨8, 0, [], [], 0⟩)
      startAfterCrossedReleases := by
  intro h
  obtain ⟨t, ⟨task, ht, hs, -⟩, -⟩ := h.started 22 6 2 _ ⟨⟨"a"⟩, .running, some ⟨"a"⟩, none, 0⟩
    rfl rfl rfl rfl
  have hnobody : ∀ task ∈ ((empty () ⟨8, 0, [], [], 0⟩).play ⟨.standard, .standard⟩ .oblivious
      (startAfterCrossedReleases.take 23)).tasks, task.activity.supervised? ≠ some 2 := by
    decide
  exact hnobody task (List.mem_of_getElem? ht) hs

/-! ### What misleads -/

/-- A call that starts a container comes from a request for that. -/
lemma start_of_change {a : Action σ} {s : Option DialogueStep} (h : Change rules cluster w a s w')
    {u : TaskId} {c : CellId} {stage : CallStage}
    (hx : w'.activity? u = some (.calling c stage .start)) :
    (∃ stage', w.activity? u = some (.calling c stage' .start)) ∨
      ∃ j, w.lookup? j = some c ∧ w'.lookup? j = some c := by
  cases hx₀ : w.activity? u with
  | none => cases isStart_of_change h hx hx₀
  | some x₀ =>
    have hprogress := progress_of_change h hx₀ hx
    generalize hcalling : Activity.calling c stage .start = x at hprogress
    cases hprogress with
    | idle => exact .inl ⟨stage, congrArg some hcalling.symm⟩
    | dropped => cases hcalling
    | begun request b x ho =>
      subst hcalling
      cases ho with
      | start j c hd hlookup => exact .inr ⟨j, hlookup, hlookup⟩
    | moved w' x x' hm =>
      subst hcalling
      cases hm with
      | comeBack => exact .inl ⟨_, rfl⟩
    | queued w' c' e p => cases hcalling; exact .inl ⟨_, rfl⟩
    | asked s' ht w' stage' =>
      obtain ⟨rfl, -, hp⟩ := Activity.calling.inj hcalling
      exact .inl ⟨stage', by rw [hp]⟩
    | replied s' ht w' stage' htrigger k events reply hd =>
      rcases sequel_cases rules w s'.cell s'.purpose reply with ⟨r, hr⟩ | hr | ⟨due, hr⟩ <;>
        cases hcalling.trans hr
    | putOff s' ht w' stage' =>
      obtain ⟨rfl, -, hp⟩ := Activity.calling.inj hcalling
      exact .inl ⟨stage', by rw [hp]⟩

/-- Who is in the books after bookkeeping was in them before, and its job was not forgotten, or is
just being started to poll a container. -/
lemma mem_supervisors_book {b : Bookkeeping} {j : JobId} {t : TaskId}
    (h : (j, t) ∈ (w.book b).supervisors) :
    ((j, t) ∈ w.supervisors ∧ b ≠ .forget j) ∨ t = w.tasks.length ∧
      ∃ c, b = .supervise c j ∧ (w.book b).activity? t = some (.summoned c) := by
  cases b with
  | supervise c j' =>
    rcases w.book_supervise_cases c j' with hbook | ⟨-, hbook⟩ <;> rw [hbook] at h ⊢
    · exact .inl ⟨(List.mem_filter.1 h).1, by simp⟩
    · rcases List.mem_cons.1 h with he | hmem
      · cases he
        exact .inr ⟨rfl, c, rfl, by simp [activity?, task?]⟩
      · exact .inl ⟨(List.mem_filter.1 hmem).1, by simp⟩
  | forget j' =>
    have hmem : (j, t) ∈ w.supervisors.filter fun s => s.1 ≠ j' := by
      cases hs : w.supervisors.lookup j' with
      | none => rwa [book_forget_of_none hs] at h
      | some s => rwa [book_forget_of_some hs] at h
    obtain ⟨hmem, hne⟩ := List.mem_filter.1 hmem
    refine .inl ⟨hmem, ?_⟩
    rintro ⟨⟩
    simp at hne
  | dismiss j' =>
    have hmem : (j, t) ∈ w.supervisors.filter fun s => s.1 ≠ j' := by
      cases hs : w.supervisors.lookup j' with
      | none => rwa [book_dismiss_of_none hs] at h
      | some s => rwa [book_dismiss_of_some hs] at h
    exact .inl ⟨(List.mem_filter.1 hmem).1, by simp⟩
  | take j' => exact .inl ⟨(List.mem_filter.1 h).1, by simp⟩
  | close => cases h
  | _ => exact .inl ⟨h, by simp⟩

/-- Only after a start that shows the container before its end a container comes to be polled. -/
lemma start_of_booking {c c' : CellId} {p : Purpose} {reply : CallReply} {j : JobId}
    (h : p.booking c reply = .supervise c' j) :
    c' = c ∧ p = .start ∧ ∃ shown, reply = .ok (.snapshot shown) ∧ shown.jobId = j ∧
      shown.state.isTerminal = false := by
  unfold Purpose.booking at h
  split at h
  · split at h
    · cases h
    · next shown hopen =>
      cases h
      exact ⟨rfl, rfl, shown, rfl, rfl, by simpa using hopen⟩
  · split at h <;> cases h
  · cases h

/-- Who is in the books after a change was in them before, and its job was not released, or it is
just being started to poll the container that its job has, or one that was started. -/
lemma mem_supervisors_of_change {a : Action σ} {s : Option DialogueStep}
    (h : Change rules cluster w a s w') {j : JobId} {t : TaskId} (hmem : (j, t) ∈ w'.supervisors) :
    ((j, t) ∈ w.supervisors ∧ ∀ s', s = some s' → s'.releases? ≠ some j) ∨
      ∃ c, w'.activity? t = some (.summoned c) ∧
        (w'.lookup? j = some c ∨ ∃ s' shown, s = some s' ∧ s'.cell = c ∧ s'.purpose = .start ∧
          s'.reply? = some (.ok (.snapshot shown)) ∧ shown.jobId = j ∧
          shown.state.isTerminal = false) := by
  have hsilent : ∀ s', (none : Option DialogueStep) = some s' → s'.releases? ≠ some j :=
    fun s' hs' => by cases hs'
  have hdrop : ∀ i, (j, t) ∈ (w.drop i).supervisors → (j, t) ∈ w.supervisors := fun i hi => by
    obtain ⟨cells, hdropped, -⟩ := w.drop_eq i
    rwa [hdropped] at hi
  cases h with
  | doomed i => exact .inl ⟨hdrop i hmem, hsilent⟩
  | dropped i => exact .inl ⟨hdrop i hmem, hsilent⟩
  | begun i task ht hd request hact b x ho =>
    rcases mem_supervisors_book hmem with ⟨hold, -⟩ | ⟨-, c, rfl, -⟩
    · exact .inl ⟨hold, hsilent⟩
    · cases ho
  | replied i task ht hd c stage p hact cell hc hr trigger k events reply hu k' =>
    rcases mem_supervisors_book hmem with ⟨hold, hkept⟩ | ⟨rfl, c', hb, hnew⟩
    · refine .inl ⟨hold, ?_⟩
      rintro _ ⟨⟩ hreleases
      obtain ⟨hp, shown, hreply, hterminal⟩ := DialogueStep.of_releases? hreleases
      obtain rfl : p = .release j := hp
      obtain rfl : reply = .ok (.snapshot shown) := by
        simpa [DialogueStep.reply?, Dialogue.result?] using hreply
      exact hkept (if_pos hterminal)
    · obtain ⟨rfl, rfl, shown, rfl, hj, hopen⟩ := start_of_booking hb
      have hlt : i < w.tasks.length := (List.getElem?_eq_some_iff.1 ht).1
      refine .inr ⟨c', ?_, .inr ⟨_, shown, rfl, rfl, rfl, rfl, hj, hopen⟩⟩
      exact (activity?_goOn_of_ne (Nat.ne_of_gt hlt) _).trans hnew
  | restored identity runId hd hnone =>
    rcases mem_supervisors_book hmem with ⟨hold, -⟩ | ⟨-, c, hb, hnew⟩
    · exact .inl ⟨hold, hsilent⟩
    · cases hb
      refine .inr ⟨_, hnew, .inl (lookup?_book ?_ (by simp) (by simp))⟩
      exact List.lookup_cons_self
  | asked | putOff =>
    refine .inl ⟨hmem, ?_⟩
    rintro _ ⟨⟩ hreleases
    obtain ⟨-, shown, hreply, -⟩ := DialogueStep.of_releases? hreleases
    cases hreply
  | _ => exact .inl ⟨hmem, hsilent⟩

/-- Whether the books agree with the registry: a container that is to be started is that of some
job unless it has ended, and a task in the books polls the container that its job has. -/
structure Agreed (w : World σ) : Prop where
  /-- A container that is to be started is in the registry, or it has ended. -/
  starts : ∀ u c stage, w.activity? u = some (.calling c stage .start) →
    (∃ k, w.container? c = some k ∧ k.state.isTerminal = true) ∨ ∃ j, w.lookup? j = some c
  /-- A task in the books polls the container of its job. -/
  entries : ∀ j t task c, (j, t) ∈ w.supervisors → w.task? t = some task →
    task.activity.supervised? = some c → w.lookup? j = some c

/-- A job keeps its container unless a release ends that looked at it, if no release is stale. -/
lemma lookup?_of_not_isStale (cluster : Cluster σ) {a : Action σ}
    (hnot : ¬ w.IsStale rules cluster a) {j : JobId} {c : CellId} (hc : w.lookup? j = some c) :
    (w.act rules cluster a).lookup? j = some c ∨
      ∃ s, w.dialogueStepOf? rules cluster a = some s ∧ s.releases? = some j ∧ s.cell = c := by
  by_cases hkept : (w.act rules cluster a).lookup? j = some c
  · exact .inl hkept
  obtain ⟨s, hs, hj⟩ := releases?_of_lookup? (act_change rules cluster w a) hc hkept
  refine .inr ⟨s, hs, hj, ?_⟩
  by_contra hne
  exact hnot ⟨s, j, c, hs, hj, hc, Ne.symm hne⟩

/-- A container that is shown before its end at the end of a start is the one that its job has. -/
lemma Agreed.lookup?_of_start (h : w.Agreed) (hatt : w.Attentive rules.policy)
    (hregistered : w.Registered) {a : Action σ} {s : DialogueStep}
    (hs : w.dialogueStepOf? rules cluster a = some s) (hpurpose : s.purpose = .start)
    {shown : Snapshot} (hreply : s.reply? = some (.ok (.snapshot shown)))
    (hopen : shown.state.isTerminal = false) : w.lookup? shown.jobId = some s.cell := by
  have hchange := act_change rules cluster w a
  rw [hs] at hchange
  have hexchange := hatt.exchange hchange
  obtain ⟨hbefore, hafter⟩ := container?_of_dialogueStep hchange
  have hshown := s.snapshot_of_reply? hexchange hreply
  obtain ⟨stage, hcalling, -⟩ := activity?_of_dialogueStep hchange
  rw [hpurpose] at hcalling
  rcases h.starts s.task s.cell stage hcalling with ⟨k, hk, hend⟩ | ⟨j, hj⟩
  -- a container that has ended is shown so
  · have hkept := (hatt.quiet_of_isTerminal cluster hk hend [a]).1
    cases hafter.symm.trans hkept
    rw [hshown] at hopen
    cases hopen.symm.trans hend
  · have hjob := hregistered.lookup hj
    rw [jobOf?, hbefore, Option.map_some, Option.some.injEq] at hjob
    have hidentity : shown.jobId = s.before.jobId := by
      rw [hshown]
      exact congrArg JobIdentity.jobId hexchange.identity
    rwa [hidentity, hjob]

/-- The books agree with the registry as long as no release is stale. -/
lemma Agreed.act (h : w.Agreed) (hatt : w.Attentive rules.policy) (htidy : w.Tidy)
    (hregistered : w.Registered) {a : Action σ} (hnot : ¬ w.IsStale rules cluster a) :
    (w.act rules cluster a).Agreed := by
  have hchange := act_change rules cluster w a
  refine ⟨fun u c stage hu => ?_, fun j t task c hmem ht hsupervised => ?_⟩
  · rcases start_of_change hchange hu with ⟨stage', hu⟩ | ⟨j, -, hj⟩
    swap
    · exact .inr ⟨j, hj⟩
    rcases h.starts u c stage' hu with ⟨k, hk, hend⟩ | ⟨j, hj⟩
    · exact .inl ⟨k, (hatt.quiet_of_isTerminal cluster hk hend [a]).1, hend⟩
    · rcases lookup?_of_not_isStale cluster hnot hj with hkept | ⟨s, hs, hreleases, rfl⟩
      · exact .inr ⟨j, hkept⟩
      · rw [hs] at hchange
        obtain ⟨-, shown, hreply, hend⟩ := DialogueStep.of_releases? hreleases
        rw [s.snapshot_of_reply? (hatt.exchange hchange) hreply] at hend
        exact .inl ⟨s.after, (container?_of_dialogueStep hchange).2, hend⟩
  · rcases mem_supervisors_of_change hchange hmem with
      ⟨hold, hnobody⟩ | ⟨c', hnew, hj | ⟨s, shown, hs, rfl, hpurpose, hreply, rfl, hopen⟩⟩
    · obtain ⟨task₀, ht₀, -⟩ := htidy.entries j t hold
      have hsupervised₀ : task₀.activity.supervised? = some c := by
        rcases hatt.course hchange (activity?_eq ht₀) (activity?_eq ht) with hsame | hcourse
        · exact hsame ▸ hsupervised
        · rcases hcourse.supervised? with hsame | ⟨r, hr⟩
          · exact hsame.symm.trans hsupervised
          · rw [hr] at hsupervised
            cases hsupervised
      have hj := h.entries j t task₀ c hold ht₀ hsupervised₀
      rcases lookup?_of_not_isStale cluster hnot hj with hkept | ⟨s, hs, hreleases, -⟩
      · exact hkept
      · exact absurd hreleases (hnobody s hs)
    · rw [activity?_eq ht, Option.some.injEq] at hnew
      rw [hnew] at hsupervised
      cases hsupervised
      exact hj
    · rw [activity?_eq ht, Option.some.injEq] at hnew
      rw [hnew] at hsupervised
      cases hsupervised
      have hj := h.lookup?_of_start hatt hregistered hs hpurpose hreply hopen
      rcases lookup?_of_not_isStale cluster hnot hj with hkept | ⟨s', hs', hreleases, -⟩
      · exact hkept
      · cases hs.symm.trans hs'
        cases hpurpose.symm.trans (DialogueStep.of_releases? hreleases).1

/-- A start is misled only after a release forgot the job of a container which it had not looked
at. -/
theorem exists_isStale_of_isMisled {state : σ} {bus : EventBus ContainerEvent}
    {actions : List (Action σ)} {a : Action σ}
    (h : ((empty state bus).play rules cluster actions).IsMisled rules cluster a) :
    ∃ n a', actions[n]? = some a' ∧
      ((empty state bus).play rules cluster (actions.take n)).IsStale rules cluster a' := by
  by_contra hnot
  have hthroughout : Throughout rules cluster (empty state bus) actions
      fun w a => ¬ w.IsStale rules cluster a := fun n a' ha' hstale => hnot ⟨n, a', ha', hstale⟩
  have hagreed : ((empty state bus).play rules cluster actions).Agreed := by
    clear h hnot
    induction actions using List.reverseRecOn with
    | nil =>
      refine ⟨fun u c stage hu => ?_, fun j t task c hmem => ?_⟩
      · cases hu
      · cases hmem
    | append_singleton actions a ih =>
      obtain ⟨hbefore, hlast⟩ := hthroughout.of_concat
      rw [play_concat]
      exact (ih hbefore).act (attentive_run rules cluster state bus actions)
        (tidy_run rules cluster state bus actions) (registered_run rules cluster state bus actions)
        hlast
  obtain ⟨s, shown, t, c, hs, hpurpose, hreply, hopen, -, hmem, htask, hne, -⟩ := h
  obtain ⟨task, ht, hsupervised, -⟩ := htask
  have hatt := attentive_run rules cluster state bus actions
  have hstarted := hagreed.lookup?_of_start hatt (registered_run rules cluster state bus actions)
    hs hpurpose hreply hopen
  have hentered := hagreed.entries shown.jobId t task c hmem ht hsupervised
  exact hne (Option.some.inj (hentered.symm.trans hstarted))

end World

end JobSupervision.Supervision
