/-
# What changes leave alone

Tasks, containers and books after each part of a change: only the task that goes on does
something else afterwards, only the container that is talked about changes, and bookkeeping
touches neither what tasks do nor any container.
-/
import JobSupervision.Proofs.Supervision.Change

namespace JobSupervision.Supervision

variable {σ : Type} {w : World σ} {rules : Rules}

namespace World

/-! ### Tasks -/

lemma activity?_eq {t : TaskId} {task : Task} (h : w.task? t = some task) :
    w.activity? t = some task.activity := by
  rw [activity?, h]
  rfl

lemma result?_eq {t : TaskId} {r : TaskResult} (h : w.result? t = some r) :
    w.activity? t = some (.finished r) := by
  rw [activity?]
  unfold result? at h
  split at h
  · next ht =>
    cases h
    rw [ht]
    rfl
  · cases h

lemma task?_goOn (w : World σ) (t : TaskId) (a : Activity) (i : TaskId) :
    (w.goOn t a).task? i =
      if t = i then (w.task? i).map fun task => { task with activity := a } else w.task? i := by
  simp only [goOn, modifyTask, task?, List.getElem?_modify]
  split <;> simp

lemma activity?_goOn_of_ne {t i : TaskId} (h : i ≠ t) (a : Activity) :
    (w.goOn t a).activity? i = w.activity? i := by
  rw [activity?, task?_goOn, if_neg h.symm, activity?]

lemma activity?_goOn_self {t : TaskId} {a a' : Activity}
    (h : (w.goOn t a).activity? t = some a') : a' = a := by
  rw [activity?, task?_goOn, if_pos rfl, Option.map_map] at h
  obtain ⟨task, -, rfl⟩ := Option.map_eq_some_iff.1 h
  rfl

lemma activity?_goOn_of_some {t : TaskId} {x : Activity} (hx : w.activity? t = some x)
    (a : Activity) : (w.goOn t a).activity? t = some a := by
  obtain ⟨task, ht, -⟩ := Option.map_eq_some_iff.1 hx
  rw [activity?, task?_goOn, if_pos rfl, ht]
  rfl

lemma lt_of_activity? {t : TaskId} {a : Activity} (h : w.activity? t = some a) :
    t < w.tasks.length := by
  obtain ⟨task, ht, -⟩ := Option.map_eq_some_iff.1 h
  exact (List.getElem?_eq_some_iff.1 ht).1

lemma length_tasks_goOn (w : World σ) (t : TaskId) (a : Activity) :
    (w.goOn t a).tasks.length = w.tasks.length := by
  simp [goOn, modifyTask]

@[simp] lemma activity?_detach (w : World σ) (t i : TaskId) :
    (w.detach t).activity? i = w.activity? i := by
  simp only [detach, activity?, modifyTask, task?, List.getElem?_modify]
  split <;> simp [Function.comp_def]

@[simp] lemma activity?_abort (w : World σ) (t i : TaskId) :
    (w.abort t).activity? i = w.activity? i := by
  simp only [abort, activity?, modifyTask, task?, List.getElem?_modify]
  split <;> simp [Function.comp_def]

lemma activity?_addTask {i : TaskId} {a a' : Activity}
    (h : (w.addTask a).1.activity? i = some a') :
    w.activity? i = some a' ∨ i = w.tasks.length ∧ a' = a := by
  simp only [addTask, activity?, task?] at h
  by_cases hi : i < w.tasks.length
  · rw [List.getElem?_append_left hi] at h
    exact .inl h
  · rw [List.getElem?_append_right (Nat.le_of_not_lt hi)] at h
    obtain ⟨task, htask, rfl⟩ := Option.map_eq_some_iff.1 h
    rw [List.getElem?_singleton] at htask
    split at htask
    · next hzero =>
      cases htask
      exact .inr ⟨Nat.le_antisymm (Nat.le_of_sub_eq_zero hzero) (Nat.le_of_not_lt hi), rfl⟩
    · cases htask

/-- After a reply nothing is done to the books, unless a submitted job is to be polled or an
ended one is to be forgotten. -/
lemma booking_cases (c : CellId) (p : Purpose) (reply : CallReply) :
    p.booking c reply = .keep ∨
      (∃ shown, reply = .ok (.snapshot shown) ∧ p.booking c reply = .supervise c shown.jobId) ∨
      ∃ j shown, p = .release j ∧ reply = .ok (.snapshot shown) ∧
        shown.state.isTerminal = true ∧ p.booking c reply = .forget j := by
  unfold Purpose.booking
  split
  · split
    · exact .inl rfl
    · exact .inr (.inl ⟨_, rfl, rfl⟩)
  · split
    · next hterminal => exact .inr (.inr ⟨_, _, rfl, rfl, hterminal, rfl⟩)
    · exact .inl rfl
  · exact .inl rfl

/-- After a reply a task ends, looks at the state, or pauses. -/
lemma sequel_cases (rules : Rules) (w : World σ) (c : CellId) (p : Purpose)
    (reply : CallReply) :
    (∃ r, w.sequel rules c p reply = .finished r) ∨
      w.sequel rules c p reply = .calling c (.arriving .state) .watchState ∨
      ∃ due, w.sequel rules c p reply = .pausing c due := by
  unfold sequel
  split
  · exact .inl ⟨_, rfl⟩
  · exact .inl ⟨_, rfl⟩
  · split <;> exact .inl ⟨_, rfl⟩
  · exact .inl ⟨_, rfl⟩
  · exact .inr (.inl rfl)
  · split
    · exact .inl ⟨_, rfl⟩
    · exact .inr (.inr ⟨_, rfl⟩)
  · split
    · exact .inl ⟨_, rfl⟩
    · exact .inr (.inr ⟨_, rfl⟩)

/-- A task is started to poll a container unless there is one that has not ended. -/
lemma book_supervise_cases (w : World σ) (c : CellId) (j : JobId) :
    w.book (.supervise c j) = w.prune ∨
      w.prune.supervisors.lookup j = none ∧ w.book (.supervise c j) =
        { w with
          tasks := w.tasks ++ [{ activity := .summoned c }],
          supervisors := (j, w.tasks.length) :: w.prune.supervisors } := by
  simp only [book, supervise]
  split
  · exact .inl rfl
  · next hnone =>
    rw [Bool.not_eq_true, Option.isSome_eq_false_iff, Option.isNone_iff_eq_none] at hnone
    exact .inr ⟨hnone, rfl⟩

lemma book_forget_of_some {j : JobId} {s : TaskId} (hs : w.supervisors.lookup j = some s) :
    w.book (.forget j) =
      ({ w with
        registry := w.registry.filter fun r => r.1 ≠ j,
        supervisors := w.supervisors.filter fun s => s.1 ≠ j }.detach s).abort s := by
  simp only [book, forget, takeSupervisor, hs]

lemma book_forget_of_none {j : JobId} (hs : w.supervisors.lookup j = none) :
    w.book (.forget j) =
      { w with
        registry := w.registry.filter fun r => r.1 ≠ j,
        supervisors := w.supervisors.filter fun s => s.1 ≠ j } := by
  simp only [book, forget, takeSupervisor, hs]

lemma book_dismiss_of_some {j : JobId} {s : TaskId} (hs : w.supervisors.lookup j = some s) :
    w.book (.dismiss j) =
      { w with supervisors := w.supervisors.filter fun s => s.1 ≠ j }.detach s := by
  simp only [book, takeSupervisor, hs]

lemma book_dismiss_of_none {j : JobId} (hs : w.supervisors.lookup j = none) :
    w.book (.dismiss j) = { w with supervisors := w.supervisors.filter fun s => s.1 ≠ j } := by
  simp only [book, takeSupervisor, hs]

/-- Bookkeeping starts a task at most, one that supervises a container. -/
lemma activity?_book {b : Bookkeeping} {i : TaskId} {a : Activity}
    (h : (w.book b).activity? i = some a) :
    w.activity? i = some a ∨
      i = w.tasks.length ∧ ∃ c j, b = .supervise c j ∧ a = .summoned c := by
  cases b with
  | keep => exact .inl h
  | supervise c j =>
    simp only [book, supervise] at h
    split at h
    · exact .inl h
    · rcases activity?_addTask (w := w.prune) h with h | ⟨rfl, rfl⟩
      · exact .inl h
      · exact .inr ⟨rfl, c, j, rfl, rfl⟩
  | forget j =>
    cases hs : w.supervisors.lookup j with
    | none =>
      rw [book_forget_of_none hs] at h
      exact .inl h
    | some s =>
      rw [book_forget_of_some hs, activity?_abort, activity?_detach] at h
      exact .inl h
  | dismiss j =>
    cases hs : w.supervisors.lookup j with
    | none =>
      rw [book_dismiss_of_none hs] at h
      exact .inl h
    | some s =>
      rw [book_dismiss_of_some hs, activity?_detach] at h
      exact .inl h
  | take j => exact .inl h
  | close => exact .inl h
  | cancel => exact .inl h
  | enter c j => exact .inl h

lemma activity?_drop_of_ne {t i : TaskId} (h : i ≠ t) :
    (w.drop t).activity? i = w.activity? i := by
  unfold drop finish
  rw [activity?_goOn_of_ne h]
  split <;> rfl

/-! ### Containers -/

@[simp] lemma cells_goOn (w : World σ) (t : TaskId) (a : Activity) :
    (w.goOn t a).cells = w.cells := rfl

@[simp] lemma cells_book (w : World σ) (b : Bookkeeping) : (w.book b).cells = w.cells := by
  cases b with
  | keep => rfl
  | supervise c j =>
    simp only [book, supervise]
    split <;> rfl
  | forget j =>
    cases hs : w.supervisors.lookup j with
    | none => rw [book_forget_of_none hs]
    | some s => rw [book_forget_of_some hs]; rfl
  | dismiss j =>
    cases hs : w.supervisors.lookup j with
    | none => rw [book_dismiss_of_none hs]
    | some s => rw [book_dismiss_of_some hs]; rfl
  | take j => rfl
  | close => rfl
  | cancel => rfl
  | enter c j => rfl

@[simp] lemma cells_leave (w : World σ) (k : σ) (c : CellId) (cell : Cell)
    (events : List EventPayload) : (w.leave k c cell events).cells = w.cells.set c cell := rfl

/-- A container that somebody else has the lock of is not affected by a task that is dropped. -/
lemma cell?_drop {t i : TaskId} {c : CellId} {cell : Cell} (hc : w.cell? c = some cell)
    (hl : cell.holder = some i) (h : i ≠ t) :
    ∃ queue, (w.drop t).cell? c = some { cell with queue := queue } := by
  unfold drop finish cell?
  rw [cells_goOn]
  split
  · next c' _ _ _ _ _ =>
    simp only [modifyCell, List.getElem?_modify]
    rw [← cell?, hc]
    split
    · refine ⟨cell.queue.filter (· ≠ t), ?_⟩
      have hne : cell.holder ≠ some t := by
        rw [hl]
        exact fun he => h (Option.some.inj he)
      simp [withdraw, hne]
    · exact ⟨cell.queue, rfl⟩
  · exact ⟨cell.queue, hc⟩

lemma drop_eq (w : World σ) (t : TaskId) :
    ∃ cells, w.drop t = ({ w with cells := cells } : World σ).goOn t (.finished (.ok .nothing)) ∧
      ∀ c, ({ w with cells := cells } : World σ).container? c = w.container? c := by
  unfold drop finish
  split
  · refine ⟨_, rfl, fun c => ?_⟩
    simp only [container?, cell?, List.getElem?_modify]
    have hwithdraw : ∀ cell : Cell, (withdraw t cell).container = cell.container := by
      intro cell
      unfold withdraw handOn
      repeat' split
      all_goals rfl
    split <;> simp [hwithdraw, Function.comp_def]
  · exact ⟨w.cells, rfl, fun c => rfl⟩

lemma container?_drop (w : World σ) (t : TaskId) (c : CellId) :
    (w.drop t).container? c = w.container? c := by
  obtain ⟨cells, hdrop, hcontainer⟩ := w.drop_eq t
  rw [hdrop]
  exact hcontainer c

end World

end JobSupervision.Supervision
