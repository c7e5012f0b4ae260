/-
# Locks

The line of a lock is the task that has it and, behind it, those that wait for it in the order
in which they came.  Whatever happens, and wherever tasks are dropped, the tasks in the line of a
container are those whose calls wait for the lock or for an answer, each of them once, and nobody
waits for a free lock (`lined_play`).  Hence one question at most is open about a container, whoever
asks has the lock, and whoever only rests is not in the line at all.
-/
import JobSupervision.Proofs.Supervision.Stranding

namespace JobSupervision

lemma Exchange.of_stop {policy : RetryPolicy} {c : Container} {d : Dialogue Turn}
    (h : Exchange policy c (.operation .stop) d) :
    (∃ q, d.query? = some q) ∨ ∃ reply, d.result? = some (.reply reply) := by
  cases h with
  | leave | stopNothing | notStoppable => exact .inr ⟨_, rfl⟩
  | askStop h r hr next => exact .inl ⟨.kill r, rfl⟩
  | attemptKnown e he => exact he.elim
  | attemptUnknown e he => exact he.elim

namespace Supervision

variable {σ : Type} {rules : Rules} {cluster : Cluster σ} {w w' : World σ}

/-! ### One lock -/

/-- The task that has the lock and those that wait for it, first come first. -/
def Cell.line (cell : Cell) : List TaskId := cell.holder.toList ++ cell.queue

/-- Whether the given tasks make up the line of a lock, those behind the first one all wait, and
nobody waits for a free lock. -/
structure Cell.Orderly (cell : Cell) (inLine waiting : TaskId → Prop) : Prop where
  /-- Nobody stands in the line twice. -/
  nodup : cell.line.Nodup
  /-- The tasks in the line. -/
  mem_line : ∀ i, i ∈ cell.line ↔ inLine i
  /-- Whoever does not have the lock waits. -/
  waits : ∀ i ∈ cell.queue, waiting i
  /-- A free lock has nobody waiting. -/
  free : cell.holder = none → cell.queue = []

namespace Cell.Orderly

variable {cell : Cell} {inLine waiting inLine' waiting' : TaskId → Prop} {t : TaskId}

lemma congr (h : cell.Orderly inLine waiting) (hline : ∀ i, inLine' i ↔ inLine i)
    (hwaiting : ∀ i, waiting i → waiting' i) : cell.Orderly inLine' waiting' where
  nodup := h.nodup
  mem_line i := (h.mem_line i).trans (hline i).symm
  waits i hi := hwaiting i (h.waits i hi)
  free := h.free

lemma notMem_queue (h : cell.Orderly inLine waiting) (ht : cell.holder = some t) :
    t ∉ cell.queue := by
  have hnodup := h.nodup
  rw [line, ht, Option.toList_some, List.singleton_append, List.nodup_cons] at hnodup
  exact hnodup.1

lemma mem_queue (h : cell.Orderly inLine waiting)
    (ht : cell.holder = none ∨ cell.holder = some t) (i : TaskId) :
    i ∈ cell.queue ↔ inLine i ∧ i ≠ t := by
  rw [← h.mem_line]
  rcases ht with hnone | hsome
  · simp [line, hnone, h.free hnone]
  · have hnot := h.notMem_queue hsome
    rw [line, hsome, Option.toList_some, List.singleton_append, List.mem_cons]
    constructor
    · intro hi
      refine ⟨.inr hi, ?_⟩
      rintro rfl
      exact hnot hi
    · rintro ⟨rfl | hi, hne⟩
      · exact absurd rfl hne
      · exact hi

lemma handOn (h : cell.Orderly inLine waiting)
    (ht : cell.holder = none ∨ cell.holder = some t) (k : Container) :
    (World.handOn { cell with container := k }).Orderly (fun i => inLine i ∧ i ≠ t)
      (fun i => waiting i ∧ i ≠ t) := by
  have hqueue := h.mem_queue ht
  have hnodup : cell.queue.Nodup := h.nodup.sublist (List.sublist_append_right _ _)
  cases hcase : cell.queue with
  | nil =>
    rw [hcase] at hqueue
    constructor <;> simp [World.handOn, line, ← hqueue]
  | cons first rest =>
    rw [hcase] at hqueue hnodup
    have hwaits : ∀ i ∈ rest, waiting i ∧ i ≠ t := by
      intro i hi
      have hmem : i ∈ first :: rest := List.mem_cons_of_mem first hi
      exact ⟨h.waits i (hcase ▸ hmem), ((hqueue i).1 hmem).2⟩
    exact ⟨hnodup, hqueue, hwaits, fun hfree => absurd hfree (Option.some_ne_none first)⟩

lemma take (h : cell.Orderly inLine waiting)
    (ht : cell.holder = none ∨ cell.holder = some t) (k : Container) :
    { cell with container := k, holder := some t : Cell }.Orderly (fun i => inLine i ∨ i = t)
      (fun i => waiting i ∧ i ≠ t) := by
  have hqueue := h.mem_queue ht
  have hnodup : cell.queue.Nodup := h.nodup.sublist (List.sublist_append_right _ _)
  refine ⟨List.nodup_cons.2 ⟨fun hi => ((hqueue t).1 hi).2 rfl, hnodup⟩, fun i => ?_, ?_,
    fun hfree => absurd hfree (Option.some_ne_none t)⟩
  · rw [line, Option.toList_some, List.singleton_append, List.mem_cons, hqueue]
    by_cases hi : i = t <;> simp [hi]
  · intro i hi
    exact ⟨h.waits i hi, ((hqueue i).1 hi).2⟩

lemma enqueue (h : cell.Orderly inLine waiting) (hnot : ¬ inLine t)
    (hheld : cell.holder ≠ none) :
    { cell with queue := cell.queue ++ [t] : Cell }.Orderly (fun i => inLine i ∨ i = t)
      (fun i => waiting i ∧ i ≠ t ∨ i = t) := by
  have hline : { cell with queue := cell.queue ++ [t] : Cell }.line = cell.line ++ [t] := by
    simp [line]
  have hnew : t ∉ cell.line := fun hi => hnot ((h.mem_line t).1 hi)
  refine ⟨?_, fun i => ?_, fun i hi => ?_, fun hnone => absurd hnone hheld⟩
  · rw [hline, List.nodup_append]
    refine ⟨h.nodup, by simp, ?_⟩
    rintro i hi j hj rfl
    exact hnew (List.mem_singleton.1 hj ▸ hi)
  · rw [hline, List.mem_append, List.mem_singleton, h.mem_line]
  · rcases List.mem_append.1 hi with hmem | hmem
    · refine .inl ⟨h.waits i hmem, ?_⟩
      rintro rfl
      exact hnew (List.mem_append_right _ hmem)
    · exact .inr (List.mem_singleton.1 hmem)

/-- A task that is dropped leaves the line, wherever it stood. -/
lemma withdraw (h : cell.Orderly inLine waiting) (t : TaskId) :
    (World.withdraw t cell).Orderly (fun i => inLine i ∧ i ≠ t)
      (fun i => waiting i ∧ i ≠ t) := by
  unfold World.withdraw
  split
  · next hholder => exact h.handOn (.inr hholder) cell.container
  · next hholder =>
    have hline : { cell with queue := cell.queue.filter (· ≠ t) : Cell }.line =
        cell.line.filter (· ≠ t) := by
      cases hcase : cell.holder with
      | none => simp [line, hcase]
      | some s =>
        have hne : s ≠ t := by
          rintro rfl
          exact hholder hcase
        simp [line, hcase, hne]
    refine ⟨hline ▸ h.nodup.filter _, fun i => ?_, fun i hi => ?_, fun hnone => ?_⟩
    · rw [hline, List.mem_filter, h.mem_line, decide_eq_true_eq]
    · obtain ⟨hmem, hne⟩ := List.mem_filter.1 hi
      exact ⟨h.waits i hmem, of_decide_eq_true hne⟩
    · simp [h.free hnone]

end Cell.Orderly

/-! ### What tasks do -/

/-- Whether an activity is a call that stands in the line of a container. -/
def Activity.InLine (c : CellId) : Activity → Prop
  | .calling c' (.queued _) _ | .calling c' (.asking ..) _ => c' = c
  | _ => False

/-- Whether an activity is a call that waits for the lock of a container. -/
def Activity.Waits (c : CellId) : Activity → Prop
  | .calling c' (.queued _) _ => c' = c
  | _ => False

lemma Activity.Waits.inLine {c : CellId} {a : Activity} (h : a.Waits c) : a.InLine c := by
  cases a with
  | calling c' stage p =>
    cases stage with
    | queued e => exact h
    | _ => cases h
  | _ => cases h

lemma Activity.InLine.eq {c c' : CellId} {stage : CallStage} {p : Purpose}
    (h : (Activity.calling c' stage p).InLine c) : c' = c := by
  cases stage with
  | queued e => exact h
  | asking q next due => exact h
  | _ => cases h

lemma supervised?_of_purpose {c : CellId} {stage : CallStage} {p : Purpose} (hwatch : p ≠ .watch)
    (hstate : p ≠ .watchState) : (Activity.calling c stage p).supervised? = none := by
  cases p with
  | watch => exact absurd rfl hwatch
  | watchState => exact absurd rfl hstate
  | _ => rfl

namespace World

/-- Whether a task does something of some kind. -/
def Does (w : World σ) (P : Activity → Prop) (t : TaskId) : Prop :=
  ∃ a, w.activity? t = some a ∧ P a

section Does

variable {P : Activity → Prop} {t : TaskId}

lemma does_goOn {x : Activity} (hx : w.activity? t = some x) (a : Activity) (i : TaskId) :
    (w.goOn t a).Does P i ↔ w.Does P i ∧ i ≠ t ∨ P a ∧ i = t := by
  by_cases hi : i = t
  · subst hi
    obtain ⟨task, ht, -⟩ := Option.map_eq_some_iff.1 hx
    have ha : (w.goOn i a).activity? i = some a := by
      rw [activity?, task?_goOn, if_pos rfl, ht]
      rfl
    simp [Does, ha]
  · simp [Does, activity?_goOn_of_ne hi, hi]

lemma does_book (hP : ∀ c, ¬ P (.summoned c)) (b : Bookkeeping) (i : TaskId) :
    (w.book b).Does P i ↔ w.Does P i := by
  constructor
  · rintro ⟨a, ha, hPa⟩
    rcases activity?_book ha with ha | ⟨-, c, j, -, rfl⟩
    · exact ⟨a, ha, hPa⟩
    · exact absurd hPa (hP c)
  · rintro ⟨a, ha, hPa⟩
    exact ⟨a, activity?_book_of ha b, hPa⟩

lemma does_addTask {a : Activity} (hP : ¬ P a) (i : TaskId) :
    (w.addTask a).1.Does P i ↔ w.Does P i := by
  constructor
  · rintro ⟨a', ha, hPa⟩
    rcases activity?_addTask ha with ha | ⟨-, rfl⟩
    · exact ⟨a', ha, hPa⟩
    · exact absurd hPa hP
  · rintro ⟨a', ha, hPa⟩
    exact ⟨a', (activity?_addTask_of_lt (lt_of_activity? ha) a).trans ha, hPa⟩

lemma not_does_of_activity? {x : Activity} (hx : w.activity? t = some x) (hP : ¬ P x) :
    ¬ w.Does P t := by
  rintro ⟨a, ha, hPa⟩
  cases hx.symm.trans ha
  exact hP hPa

end Does

/-! ### All locks -/

/-- Whether the line of every container is made up of the calls that stand in it. -/
structure Lined (w : World σ) : Prop where
  /-- The lines of the containers that there are. -/
  cells : ∀ c cell, w.cell? c = some cell →
    cell.Orderly (w.Does (Activity.InLine c)) (w.Does (Activity.Waits c))
  /-- There are no other lines. -/
  nowhere : ∀ c, w.cell? c = none → ∀ t, ¬ w.Does (Activity.InLine c) t

namespace Lined

variable {t : TaskId} {x a : Activity}

lemma of_same (h : w.Lined) (hcells : ∀ c, w'.cell? c = w.cell? c)
    (hline : ∀ c i, w'.Does (Activity.InLine c) i ↔ w.Does (Activity.InLine c) i)
    (hwaits : ∀ c i, w.Does (Activity.Waits c) i → w'.Does (Activity.Waits c) i) : w'.Lined where
  cells c cell hc := (h.cells c cell (hcells c ▸ hc)).congr (hline c) (hwaits c)
  nowhere c hc i hi := h.nowhere c (hcells c ▸ hc) i ((hline c i).1 hi)

lemma book (h : w.Lined) (b : Bookkeeping) : (w.book b).Lined :=
  h.of_same (fun c => by rw [cell?, cells_book]; rfl) (fun _ i => does_book (fun _ => id) b i)
    (fun _ i => (does_book (fun _ => id) b i).2)

lemma addTask (h : w.Lined) (request : Request) : (w.addTask (.fresh request)).1.Lined :=
  h.of_same (fun _ => rfl) (fun _ i => does_addTask id i) (fun _ i => (does_addTask id i).2)

lemma goOn (h : w.Lined) (hx : w.activity? t = some x) (hout : ∀ c, ¬ x.InLine c)
    (hout' : ∀ c, ¬ a.InLine c) : (w.goOn t a).Lined := by
  refine h.of_same (fun _ => rfl) (fun c i => ?_) (fun c i hi => ?_)
  · rw [does_goOn hx]
    have hne : w.Does (Activity.InLine c) i → i ≠ t := by
      rintro hi rfl
      exact not_does_of_activity? hx (hout c) hi
    exact ⟨fun hi => (hi.resolve_right fun ha => hout' c ha.1).1, fun hi => .inl ⟨hi, hne hi⟩⟩
  · refine (does_goOn hx a i).2 (.inl ⟨hi, ?_⟩)
    rintro rfl
    exact not_does_of_activity? hx (fun hwaits => hout c hwaits.inLine) hi

lemma addCell (h : w.Lined) (k : Container) : (w.addCell k).1.Lined where
  cells c cell hc := by
    rw [cell?, World.addCell, List.getElem?_append] at hc
    split at hc
    · exact h.cells c cell hc
    · next hlt =>
      have hnone : w.cell? c = none := List.getElem?_eq_none (Nat.le_of_not_lt hlt)
      have hnobody := h.nowhere c hnone
      rw [List.getElem?_singleton] at hc
      split at hc
      · cases hc
        have hempty : ∀ i : TaskId, i ∉ ([] : List TaskId) := fun _ => List.not_mem_nil
        refine ⟨List.nodup_nil, fun i => ?_, fun i hi => absurd hi (hempty i), fun _ => rfl⟩
        exact ⟨fun hi => absurd hi (hempty i), fun hi => absurd hi (hnobody i)⟩
      · cases hc
  nowhere c hc := by
    refine h.nowhere c (List.getElem?_eq_none ?_)
    have hle := List.getElem?_eq_none_iff.1 hc
    rw [World.addCell, List.length_append] at hle
    exact Nat.le_of_add_right_le hle

/-- A task goes on in the line of one container, after some bookkeeping. -/
lemma goOn_set (h : w.Lined) {c : CellId} {cell cell' : Cell} (hc : w.cell? c = some cell)
    (hx : w.activity? t = some x) (hout : ∀ c', c' ≠ c → ¬ x.InLine c')
    (hout' : ∀ c', c' ≠ c → ¬ a.InLine c') (w₁ : World σ) (htasks : w₁.tasks = w.tasks)
    (hcells : w₁.cells = w.cells.set c cell') (b : Bookkeeping)
    (horderly : cell'.Orderly
      (fun i => w.Does (Activity.InLine c) i ∧ i ≠ t ∨ a.InLine c ∧ i = t)
      (fun i => w.Does (Activity.Waits c) i ∧ i ≠ t ∨ a.Waits c ∧ i = t)) :
    ((w₁.book b).goOn t a).Lined := by
  have hsame : ∀ {P : Activity → Prop} i, w₁.Does P i ↔ w.Does P i := by
    intro P i
    simp only [Does, activity?, task?, htasks]
  have hx₁ : (w₁.book b).activity? t = some x := by
    refine activity?_book_of ?_ b
    rwa [activity?, task?, htasks]
  have hdoes : ∀ {P : Activity → Prop}, (∀ c, ¬ P (.summoned c)) → ∀ i,
      ((w₁.book b).goOn t a).Does P i ↔ w.Does P i ∧ i ≠ t ∨ P a ∧ i = t := by
    intro P hP i
    rw [does_goOn hx₁, does_book hP, hsame]
  -- whoever stands in another line is somebody else
  have helsewhere : ∀ c', c' ≠ c → ∀ i, w.Does (Activity.InLine c') i → i ≠ t := by
    rintro c' hne i hi rfl
    exact not_does_of_activity? hx (hout c' hne) hi
  have hcell? : ∀ c', ((w₁.book b).goOn t a).cell? c' =
      if c = c' then some cell' else w.cell? c' := by
    intro c'
    have hlt : c < w.cells.length := (List.getElem?_eq_some_iff.1 hc).1
    rw [cell?, cells_goOn, cells_book, hcells, List.getElem?_set]
    by_cases he : c = c'
    · rw [if_pos he, if_pos he, if_pos (he ▸ hlt)]
    · rw [if_neg he, if_neg he]
      rfl
  constructor
  · intro c' cell'' hc'
    rw [hcell?] at hc'
    split at hc'
    · next he =>
      subst he
      cases hc'
      exact horderly.congr (hdoes fun _ => id) (fun i hi => (hdoes (fun _ => id) i).2 hi)
    · next he =>
      have hne : c' ≠ c := fun h => he h.symm
      refine (h.cells c' cell'' hc').congr (fun i => ?_) (fun i hi => ?_)
      · rw [hdoes fun _ => id]
        exact ⟨fun hi => (hi.resolve_right fun ha => hout' c' hne ha.1).1,
          fun hi => .inl ⟨hi, helsewhere c' hne i hi⟩⟩
      · obtain ⟨y, hy, hwaits⟩ := id hi
        exact (hdoes (fun _ => id) i).2 (.inl ⟨hi, helsewhere c' hne i ⟨y, hy, hwaits.inLine⟩⟩)
  · intro c' hc' i hi
    rw [hcell?] at hc'
    split at hc'
    · cases hc'
    · next he =>
      have hne : c' ≠ c := fun h => he h.symm
      rcases (hdoes (fun _ => id) i).1 hi with ⟨hdoes', -⟩ | ⟨ha, -⟩
      · exact h.nowhere c' hc' i hdoes'
      · exact hout' c' hne ha

lemma drop (h : w.Lined) {task : Task} (ht : w.task? t = some task) : (w.drop t).Lined := by
  have hx := activity?_eq ht
  obtain ⟨activity, detached, aborted⟩ := task
  cases activity with
  | calling c stage p =>
    cases hc : w.cell? c with
    | some cell =>
      have hdrop : w.drop t =
          (({ w with cells := w.cells.set c (withdraw t cell) } : World σ).book .keep).goOn t
            (.finished (.ok .nothing)) := by
        simp only [World.drop, ht, modifyCell_eq hc]
        rfl
      have horderly := (h.cells c cell hc).withdraw t
      rw [hdrop]
      refine h.goOn_set hc hx (fun c' hne hin => hne hin.eq.symm) (fun _ _ => id)
        { w with cells := w.cells.set c (withdraw t cell) } rfl rfl .keep ?_
      exact horderly.congr (fun i => by simp [Activity.InLine]) (fun i hi => .inl hi)
    | none =>
      -- a call on a container that is not there stands in no line
      have hdrop : w.drop t = w.goOn t (.finished (.ok .nothing)) := by
        have hle : w.cells.length ≤ c := List.getElem?_eq_none_iff.1 hc
        simp [World.drop, ht, finish, modifyCell, List.modify_eq_self hle]
      have hout : ∀ c', ¬ (Activity.calling c stage p).InLine c' := by
        intro c' hin
        exact h.nowhere c hc t ⟨_, hx, hin.eq ▸ hin⟩
      rw [hdrop]
      exact h.goOn hx hout fun _ => id
  | _ =>
    have hdrop : w.drop t = w.goOn t (.finished (.ok .nothing)) := by
      simp only [World.drop, ht]
      rfl
    rw [hdrop]
    exact h.goOn hx (fun _ => id) fun _ => id

/-- A task that waits for an answer has the lock. -/
lemma holder_of_asking (h : w.Lined) {c : CellId} {q : Query} {next : q.Answer → Dialogue Turn}
    {due : Nat} {p : Purpose} (hx : w.activity? t = some (.calling c (.asking q next due) p))
    {cell : Cell} (hc : w.cell? c = some cell) : cell.holder = some t := by
  have horderly := h.cells c cell hc
  have hmem : t ∈ cell.line := (horderly.mem_line t).2 ⟨_, hx, rfl⟩
  rw [Cell.line, List.mem_append, Option.mem_toList] at hmem
  refine hmem.resolve_right fun hqueue => ?_
  exact not_does_of_activity? hx id (horderly.waits t hqueue)

/-- A task that talks has the lock, or nobody has it. -/
lemma holder_of_talk (h : w.Lined) {c : CellId} {stage : CallStage} {p : Purpose}
    (hx : w.activity? t = some (.calling c stage p)) {cell : Cell} (hc : w.cell? c = some cell)
    (hr : w.callReady t c stage = true) {u : Trigger × Dialogue Turn}
    (hu : w.utterance? rules cluster cell stage = some u) :
    cell.holder = none ∨ cell.holder = some t := by
  cases stage with
  | arriving e =>
    simp only [utterance?] at hu
    split at hu
    · next hnone => exact .inl (Option.isNone_iff_eq_none.1 hnone)
    · cases hu
  | queued e => exact .inr (by simpa [callReady, hc] using hr)
  | asking q next due => exact .inr (h.holder_of_asking hx hc)
  | resting e due => cases hu

/-- Whatever happens, the lines stay in order. -/
lemma change (h : w.Lined) {a : Action σ} {s : Option DialogueStep}
    (hchange : Change rules cluster w a s w') : w'.Lined := by
  have hout : ∀ {c stage p}, ∀ c', c' ≠ c → ¬ (Activity.calling c stage p).InLine c' :=
    fun c' hne hin => hne hin.eq.symm
  cases hchange with
  | nothing => exact h
  | doomed t task ht => exact h.drop ht
  | dropped t task ht => exact h.drop ht
  | begun t task ht hd request hact b a ho =>
    have hx := activity?_eq ht
    rw [hact] at hx
    refine (h.book b).goOn (activity?_book_of hx b) (fun _ => id) fun c => ?_
    cases ho <;> exact id
  | moved t a a' ha hm =>
    refine h.goOn ha (fun c hin => ?_) fun c => by cases hm <;> exact id
    cases hm with
    | vanish c' stage p hnone =>
      obtain rfl := hin.eq
      exact h.nowhere c' hnone t ⟨_, ha, hin⟩
    | _ => exact hin
  | queued t c e p ha cell hc hl =>
    have hnot : ¬ w.Does (Activity.InLine c) t := not_does_of_activity? ha id
    have horderly := (h.cells c cell hc).enqueue hnot hl
    have hne : ∀ i, w.Does (Activity.InLine c) i → i ≠ t := by
      rintro i hi rfl
      exact hnot hi
    refine h.goOn_set hc ha hout hout { w with cells := w.cells.set c _ } rfl rfl .keep
      (horderly.congr (fun i => ?_) fun i hi => ?_)
    · constructor
      · exact fun hi => hi.imp (·.1) (·.2)
      · exact fun hi => hi.imp (fun hdoes => ⟨hdoes, hne i hdoes⟩) fun he => ⟨rfl, he⟩
    · exact hi.imp id fun he => ⟨rfl, he⟩
  | asked t task ht hd c stage p hact cell hc hr trigger c' events q next hu k due =>
    have hx := activity?_eq ht
    rw [hact] at hx
    have hholder := h.holder_of_talk hx hc hr hu
    have hlocker : stage.locker t cell = some t := by
      cases stage with
      | asking q' next' due' => exact h.holder_of_asking hx hc
      | _ => rfl
    have horderly := (h.cells c cell hc).take hholder c'
    rw [hlocker]
    refine h.goOn_set hc hx hout hout (w.leave k c _ events) rfl rfl .keep
      (horderly.congr (fun i => ?_) fun i hi => .inl hi)
    by_cases hi : i = t <;> simp [hi, Activity.InLine]
  | replied t task ht hd c stage p hact cell hc hr trigger c' events reply hu k =>
    have hx := activity?_eq ht
    rw [hact] at hx
    have horderly := (h.cells c cell hc).handOn (h.holder_of_talk hx hc hr hu) c'
    have hout' : ∀ c', ¬ (w.sequel rules c p reply).InLine c' := by
      intro c'
      rcases sequel_cases rules w c p reply with ⟨r, he⟩ | he | ⟨due, he⟩ <;> rw [he] <;> exact id
    refine h.goOn_set hc hx hout (fun c' _ => hout' c') (w.leave k c _ events) rfl rfl _
      (horderly.congr (fun i => ?_) fun i hi => .inl hi)
    simp [hout' c]
  | putOff t task ht hd c stage p hact cell hc hr trigger c' events delay e hu k stage' hs =>
    have hx := activity?_eq ht
    rw [hact] at hx
    have horderly := (h.cells c cell hc).handOn (h.holder_of_talk hx hc hr hu) c'
    have hout' : ¬ (Activity.calling c stage' p).InLine c := by
      rcases hs with rfl | ⟨due, rfl⟩ <;> exact id
    refine h.goOn_set hc hx hout hout (w.leave k c _ events) rfl rfl .keep
      (horderly.congr (fun i => ?_) fun i hi => .inl hi)
    simp [hout']
  | requested request => exact h.addTask request
  | created identity => exact (h.addCell _).book _
  | restored identity runId => exact ((h.addCell _).book _).book _
  | shared identity runId container => exact h.addCell container
  | cancelled => exact h.book .cancel
  | drifted => exact h.of_same (fun _ => rfl) (fun _ _ => Iff.rfl) (fun _ _ => id)

end Lined

lemma lined_empty (state : σ) (bus : EventBus ContainerEvent) : (empty state bus).Lined where
  cells c cell hc := by cases hc
  nowhere c _ t := by
    rintro ⟨a, ha, -⟩
    cases (activity?_eq_none rfl t).symm.trans ha

theorem lined_play (rules : Rules) (cluster : Cluster σ) (h : w.Lined)
    (actions : List (Action σ)) : (w.play rules cluster actions).Lined := by
  induction actions generalizing w with
  | nil => exact h
  | cons a rest ih => exact ih (h.change (act_change rules cluster w a))

/-! ### Callers -/

/-- Whether a question that a task asked about a container is open. -/
def AsksAbout (w : World σ) (c : CellId) (t : TaskId) : Prop :=
  ∃ q next due p, w.activity? t = some (.calling c (.asking q next due) p)

/-- Whether a task that calls on a container waits out a delay. -/
def RestsFrom (w : World σ) (c : CellId) (t : TaskId) : Prop :=
  ∃ e due p, w.activity? t = some (.calling c (.resting e due) p)

/-- Whether a task that calls on a container, other than the given one, waits for anything but
the end of a delay. -/
def AllRestBut (w : World σ) (c : CellId) (t : Option TaskId) : Prop :=
  ∀ i stage p, some i ≠ t → w.activity? i = some (.calling c stage p) → w.RestsFrom c i

namespace Lined

variable {t : TaskId} {c : CellId} {cell : Cell}

lemma eq_of_asksAbout (h : w.Lined) {t' : TaskId} (ht : w.AsksAbout c t)
    (ht' : w.AsksAbout c t') : t = t' := by
  obtain ⟨q, next, due, p, hx⟩ := ht
  obtain ⟨q', next', due', p', hx'⟩ := ht'
  cases hc : w.cell? c with
  | none => exact absurd ⟨_, hx, rfl⟩ (h.nowhere c hc t)
  | some cell =>
    have hholder := h.holder_of_asking hx hc
    have hholder' := h.holder_of_asking hx' hc
    exact Option.some.inj (hholder.symm.trans hholder')

lemma notMem_line_of_restsFrom (h : w.Lined) (ht : w.RestsFrom c t)
    (hc : w.cell? c = some cell) : t ∉ cell.line := by
  obtain ⟨e, due, p, hx⟩ := ht
  intro hmem
  exact not_does_of_activity? hx id (((h.cells c cell hc).mem_line t).1 hmem)

lemma holder_of_dialogueStep (h : w.Lined) {a : Action σ} {s : DialogueStep}
    (hchange : Change rules cluster w a (some s) w') (hc : w.cell? s.cell = some cell) :
    cell.holder = none ∨ cell.holder = some s.task := by
  cases hchange with
  | asked t task ht hd c stage p hact cell' hc' hr trigger k events q next hu =>
    cases hc.symm.trans hc'
    exact h.holder_of_talk (hact ▸ activity?_eq ht) hc hr hu
  | replied t task ht hd c stage p hact cell' hc' hr trigger k events reply hu =>
    cases hc.symm.trans hc'
    exact h.holder_of_talk (hact ▸ activity?_eq ht) hc hr hu
  | putOff t task ht hd c stage p hact cell' hc' hr trigger k events delay e hu =>
    cases hc.symm.trans hc'
    exact h.holder_of_talk (hact ▸ activity?_eq ht) hc hr hu

/-- If all callers rest but one who is not in the line, the lock is free. -/
lemma free_of_allRestBut (h : w.Lined) {t : Option TaskId} (hrest : w.AllRestBut c t)
    (ht : ∀ i, t = some i → ¬ w.Does (Activity.InLine c) i) (hc : w.cell? c = some cell) :
    cell.holder = none ∧ cell.queue = [] := by
  have horderly := h.cells c cell hc
  have hempty : cell.line = [] := by
    refine List.eq_nil_iff_forall_not_mem.2 fun i hi => ?_
    by_cases hit : some i = t
    · exact ht i hit.symm ((horderly.mem_line i).1 hi)
    · obtain ⟨a, ha, hin⟩ := (horderly.mem_line i).1 hi
      cases a with
      | calling c' stage p =>
        obtain rfl := hin.eq
        exact h.notMem_line_of_restsFrom (hrest i stage p hit ha) hc hi
      | _ => cases hin
  rw [Cell.line, List.append_eq_nil_iff, Option.toList_eq_nil_iff] at hempty
  exact hempty

end Lined

/-! ### What callers come to -/

lemma result?_of_activity? {t : TaskId} {r : TaskResult}
    (hx : w.activity? t = some (.finished r)) : w.result? t = some r := by
  obtain ⟨⟨activity, detached, aborted⟩, ht, rfl⟩ := Option.map_eq_some_iff.1 hx
  simp [result?, ht]

lemma asksAbout_of_query? {a : Action σ} {s : DialogueStep}
    (h : Change rules cluster w a (some s) w')
    {q : Query} (hq : s.query? = some q) : w'.AsksAbout s.cell s.task := by
  cases h with
  | asked t task ht hd c stage p hact cell hc hr trigger c' events q' next hu k due =>
    have hleft : (w.leave k c { cell with container := c', holder := stage.locker t cell }
        events).activity? t = some task.activity := activity?_eq ht
    exact ⟨q', next, due, p, activity?_goOn_of_some hleft _⟩
  | replied => cases hq
  | putOff => cases hq

/-- A task whose call has a reply has that as its result, if the call was made for nothing else. -/
lemma result?_of_reply? {a : Action σ} {s : DialogueStep}
    (h : Change rules cluster w a (some s) w')
    (hp : s.purpose = .deliver) {reply : CallReply} (hreply : s.reply? = some reply) :
    w'.result? s.task = some (callResult reply) := by
  cases h with
  | asked => cases hreply
  | replied t task ht hd c stage p hact cell hc hr trigger c' events reply' hu k =>
    obtain rfl : p = .deliver := hp
    cases hreply
    have hleft : (w.leave k c (handOn { cell with container := c' }) events).activity? t =
        some task.activity := activity?_eq ht
    exact result?_of_activity? (activity?_goOn_of_some (activity?_book_of hleft _) _)
  | putOff => cases hreply

/-- A task that comes for a free lock talks at once, unless it is to be dropped. -/
lemma dialogueStep?_of_free {t : TaskId} {task : Task} (ht : w.task? t = some task)
    (hd : w.isDoomed task = false) {c : CellId} {e : GuardedOperation} {p : Purpose}
    (hact : task.activity = .calling c (.arriving e) p) {cell : Cell} (hc : w.cell? c = some cell)
    (hfree : cell.holder = none) :
    w.dialogueStep? rules cluster t =
      some ⟨t, p, c, cell.container, .operation e, e.hold rules.policy cell.container⟩ := by
  have henabled : w.isEnabled t = true := by
    simp [isEnabled, ht, Task.isFinished, hact, isReady, callReady]
  simp [dialogueStep?, ht, henabled, hd, hact, hc, utterance?, hfree]

section Runs

variable {state : σ} {bus : EventBus ContainerEvent} {actions : List (Action σ)} {t : TaskId}

/-- A caller that comes for the lock while all others rest talks in its next step. -/
lemma dialogueStep?_of_allRestBut {c : CellId} {e : GuardedOperation} {p : Purpose}
    (hx : ((empty state bus).play rules cluster actions).activity? t =
      some (.calling c (.arriving e) p))
    (hp : (Activity.calling c (.arriving e) p).supervised? = none)
    (hrest : ((empty state bus).play rules cluster actions).AllRestBut c (some t)) {cell : Cell}
    (hc : ((empty state bus).play rules cluster actions).cell? c = some cell) :
    ((empty state bus).play rules cluster actions).dialogueStep? rules cluster t =
      some ⟨t, p, c, cell.container, .operation e, e.hold rules.policy cell.container⟩ := by
  have hlined := lined_play rules cluster (lined_empty state bus) actions
  have hout : ∀ i, some t = some i →
      ¬ ((empty state bus).play rules cluster actions).Does (Activity.InLine c) i := by
    intro i hi
    cases hi
    exact not_does_of_activity? hx id
  obtain ⟨task, ht, hact⟩ := Option.map_eq_some_iff.1 hx
  have hd := isDoomed_of_supervised? ht (by rw [Task.isFinished, hact]) (hact ▸ hp)
  exact dialogueStep?_of_free ht hd hact hc (hlined.free_of_allRestBut hrest hout hc).1

end Runs

/-! ### Exclusion -/

/-- What the lock of a container does for those who call on it in a run. -/
structure Exclusive (rules : Rules) (cluster : Cluster σ) (w : World σ) (actions : List (Action σ))
    (c : CellId) : Prop where
  /-- One question at most is open about the container. -/
  single : ∀ n t t', (w.play rules cluster (actions.take n)).AsksAbout c t →
    (w.play rules cluster (actions.take n)).AsksAbout c t' → t = t'
  /-- Whoever asked it has the lock until the answer is taken. -/
  locked : ∀ n t, (w.play rules cluster (actions.take n)).AsksAbout c t →
    ∃ cell, (w.play rules cluster (actions.take n)).cell? c = some cell ∧ cell.holder = some t
  /-- Whoever says something about the container has the lock, or takes it when it is free, and
  still has it after a question. -/
  spoken : ∀ n a s cell, actions[n]? = some a →
    (w.play rules cluster (actions.take n)).dialogueStepOf? rules cluster a = some s → s.cell = c →
    (w.play rules cluster (actions.take n)).cell? c = some cell →
      (cell.holder = none ∨ cell.holder = some s.task) ∧
        ∀ q, s.query? = some q →
          (w.play rules cluster (actions.take (n + 1))).AsksAbout c s.task
  /-- Whoever waits out a delay neither has the lock nor waits for it. -/
  resting : ∀ n t cell, (w.play rules cluster (actions.take n)).RestsFrom c t →
    (w.play rules cluster (actions.take n)).cell? c = some cell →
      cell.holder ≠ some t ∧ t ∉ cell.queue
  /-- While all callers wait out delays, the lock is free. -/
  free : ∀ n cell, (w.play rules cluster (actions.take n)).AllRestBut c none →
    (w.play rules cluster (actions.take n)).cell? c = some cell →
      cell.holder = none ∧ cell.queue = []
  /-- Another caller that comes then does its operation in its next step. -/
  served : ∀ n t e p cell, (w.play rules cluster (actions.take n)).AllRestBut c (some t) →
    (w.play rules cluster (actions.take n)).activity? t = some (.calling c (.arriving e) p) →
    p ≠ .watch → p ≠ .watchState →
    (w.play rules cluster (actions.take n)).cell? c = some cell →
      (w.play rules cluster (actions.take n)).dialogueStep? rules cluster t =
        some ⟨t, p, c, cell.container, .operation e, e.hold rules.policy cell.container⟩
  /-- If it came to look at the container, it is shown the container by that step. -/
  shown : ∀ n t cell, (w.play rules cluster (actions.take n)).AllRestBut c (some t) →
    (w.play rules cluster (actions.take n)).activity? t =
      some (.calling c (.arriving .status) .deliver) →
    (w.play rules cluster (actions.take n)).cell? c = some cell →
      ((w.play rules cluster (actions.take n)).step rules cluster t).result? t =
        some (.ok (.call (.snapshot cell.container.snapshot)))
  /-- If it came to stop the container, it has done so by that step, or failed, or asked the
  cluster to stop the run. -/
  stopped : ∀ n t cell, (w.play rules cluster (actions.take n)).AllRestBut c (some t) →
    (w.play rules cluster (actions.take n)).activity? t =
      some (.calling c (.arriving .stop) .deliver) →
    (w.play rules cluster (actions.take n)).cell? c = some cell →
      ((w.play rules cluster (actions.take n)).step rules cluster t).AsksAbout c t ∨
        ∃ reply, ((w.play rules cluster (actions.take n)).step rules cluster t).result? t =
          some (callResult reply)

/-- In every run, whatever tasks call on a container, wherever they are and wherever they are
dropped: the lock of the container keeps its callers apart, and nobody has it while waiting out a
delay. -/
theorem exclusive_run (rules : Rules) (cluster : Cluster σ) (state : σ)
    (bus : EventBus ContainerEvent) (actions : List (Action σ)) (c : CellId) :
    Exclusive rules cluster (empty state bus) actions c := by
  have hlined := fun n => lined_play rules cluster (lined_empty state bus) (actions.take n)
  refine ⟨fun n t t' => (hlined n).eq_of_asksAbout, ?_, ?_, ?_, ?_, ?_, ?_, ?_⟩
  · intro n t hasks
    obtain ⟨q, next, due, p, hx⟩ := id hasks
    cases hc : ((empty state bus).play rules cluster (actions.take n)).cell? c with
    | none => exact absurd ⟨_, hx, rfl⟩ ((hlined n).nowhere c hc t)
    | some cell => exact ⟨cell, rfl, (hlined n).holder_of_asking hx hc⟩
  · rintro n a s cell ha hs rfl hc
    have hchange := act_change rules cluster ((empty state bus).play rules cluster
      (actions.take n)) a
    rw [hs] at hchange
    refine ⟨(hlined n).holder_of_dialogueStep hchange hc, fun q hq => ?_⟩
    rw [play_take_succ rules cluster _ ha]
    exact asksAbout_of_query? hchange hq
  · intro n t cell hrests hc
    have hnot := (hlined n).notMem_line_of_restsFrom hrests hc
    rw [Cell.line, List.mem_append, Option.mem_toList, not_or] at hnot
    exact hnot
  · intro n cell hrest hc
    exact (hlined n).free_of_allRestBut hrest nofun hc
  · intro n t e p cell hrest hx hwatch hstate hc
    exact dialogueStep?_of_allRestBut hx (supervised?_of_purpose hwatch hstate) hrest hc
  · intro n t cell hrest hx hc
    have hchange := act_change rules cluster ((empty state bus).play rules cluster
      (actions.take n)) (.step t)
    rw [dialogueStepOf?, dialogueStep?_of_allRestBut hx rfl hrest hc] at hchange
    exact result?_of_reply? hchange rfl rfl
  · intro n t cell hrest hx hc
    have hchange := act_change rules cluster ((empty state bus).play rules cluster
      (actions.take n)) (.step t)
    rw [dialogueStepOf?, dialogueStep?_of_allRestBut hx rfl hrest hc] at hchange
    rcases (GuardedOperation.always_hold cell.container .stop).head.of_stop with ⟨q, hq⟩
      | ⟨reply, hreply⟩
    · exact .inl (asksAbout_of_query? hchange hq)
    · refine .inr ⟨reply, result?_of_reply? hchange rfl ?_⟩
      rw [DialogueStep.reply?, hreply]

/-- Two callers recover a container and both wait out the delay: the container is shown at once to
a third one, and the question of a fourth one is the only one that is open. -/
example :
    let w := empty () ⟨8, 0, [], [], 0⟩
    let rules : Rules := ⟨.standard, .standard⟩
    let actions : List (Action Unit) := [.share (.bare ⟨"a"⟩) (some ⟨"r"⟩),
      .request (.call 0 .recover), .request (.call 0 .recover), .step 0, .step 0, .step 1, .step 1,
      .request (.call 0 .status), .step 2, .step 2, .request (.call 0 .stop), .step 3, .step 3]
    let w' := w.play rules .oblivious actions
    w'.cells.map (fun cell => (cell.holder, cell.queue)) = [(some 3, [])] ∧
      (List.range 4).map (fun t => (w'.result? t).isSome) = [false, false, true, false] := by
  decide

end World

end Supervision

end JobSupervision
