/-
# Changes

Whatever happens in a run changes the world in one of a few ways.  This file lists them
(`Change`): a task goes on without talking, talks under the lock of a container, or is dropped,
and new tasks and containers come into being.  What is done to the books at the same moment is
one of a few acts of bookkeeping.  That every action of a run is in the list (`act_change`) is
all that later files need to know about the steps of tasks.
-/
import JobSupervision.Proofs.Container.Exchange

namespace JobSupervision.Supervision

variable {σ : Type}

/-- What is done to the books at once. -/
inductive Bookkeeping where
  /-- Nothing. -/
  | keep
  /-- A container is polled from now on, unless a task polls it already. -/
  | supervise (cell : CellId) (jobId : JobId)
  /-- A job is forgotten, and its polling task is dropped. -/
  | forget (jobId : JobId)
  /-- The polling task of a job is told to end. -/
  | dismiss (jobId : JobId)
  /-- The polling task of a job is taken out of the books. -/
  | take (jobId : JobId)
  /-- The supervision is shut down, and nobody is in the books any longer. -/
  | close
  /-- The supervision is shut down without waiting. -/
  | cancel
  /-- A container is entered under the id of a job. -/
  | enter (cell : CellId) (jobId : JobId)

/-- The operation that a call will do when it has the lock. -/
def CallStage.operation? : CallStage → Option GuardedOperation
  | .arriving e => some e
  | .queued e => some e
  | .asking .. => none
  | .resting e _ => some e

/-- Who has the lock of a container while a task talks. -/
def CallStage.locker (t : TaskId) (cell : Cell) : CallStage → Option TaskId
  | .asking .. => cell.holder
  | _ => some t

/-- The result of a task whose call has a reply. -/
def callResult : CallReply → TaskResult
  | .ok v => .ok (.call v)
  | .error e => .error (.container e)

/-- The bookkeeping when a call on a container has a reply. -/
def Purpose.booking (c : CellId) : Purpose → CallReply → Bookkeeping
  | .start, .ok (.snapshot s) => if s.state.isTerminal then .keep else .supervise c s.jobId
  | .release jobId, .ok (.snapshot s) => if s.state.isTerminal then .forget jobId else .keep
  | _, _ => .keep

namespace World

/-- The world after an act of bookkeeping. -/
def book (w : World σ) : Bookkeeping → World σ
  | .keep => w
  | .supervise c jobId => w.supervise c jobId
  | .forget jobId => w.forget jobId
  | .dismiss jobId =>
    match w.takeSupervisor jobId with
    | (some s, w) => w.detach s
    | (none, w) => w
  | .take jobId => (w.takeSupervisor jobId).2
  | .close => { w with shutDown := true, supervisors := [] }
  | .cancel => w.cancel
  | .enter c jobId => { w with registry := (jobId, c) :: w.registry }

/-- The world after a step of dialogue about a container, before the task goes on. -/
def leave (w : World σ) (cluster : σ) (c : CellId) (cell : Cell) (events : List EventPayload) :
    World σ :=
  { ({ w with cells := w.cells.set c cell }.publish cell.container.jobId events) with
    cluster := cluster }

/-- The world with a container that is entered under the id of its job. -/
def enter (w : World σ) (container : Container) : World σ :=
  (w.addCell container).1.book (.enter w.cells.length container.jobId)

/-- What a task is doing. -/
def activity? (w : World σ) (t : TaskId) : Option Activity := (w.task? t).map (·.activity)

/-- A container as of the last question or operation. -/
def container? (w : World σ) (c : CellId) : Option Container := (w.cell? c).map (·.container)

/-- What a task does when its call on a container has a reply. -/
def sequel (rules : Rules) (w : World σ) (c : CellId) : Purpose → CallReply → Activity
  | .deliver, reply => .finished (callResult reply)
  | .start, reply => .finished (callResult reply)
  | .release jobId, .ok (.snapshot s) =>
    if s.state.isTerminal then .finished (callResult (.ok (.snapshot s)))
    else .finished (.error (.notReleasable jobId s.state))
  | .release _, reply => .finished (callResult reply)
  | .watch, .error _ => .calling c (.arriving .state) .watchState
  | .watch, reply | .watchState, reply =>
    if showsEnd reply then .finished (.ok .nothing)
    else .pausing c (w.clock + rules.settings.pollIntervalMs.toNat)

end World

/-- How a request begins: the bookkeeping, and what the task does next. -/
inductive Opening (rules : Rules) (w : World σ) : Request → Bookkeeping → Activity → Prop where
  | refused (request : Request) (e : RequestError) (h : ∀ c e', request ≠ .call c e') :
      Opening rules w request .keep (.finished (.error e))
  | start (j : JobId) (c : CellId) (hd : w.shutDown = false) (h : w.lookup? j = some c) :
      Opening rules w (.start j) .keep (.calling c (.arriving .run) .start)
  | stop (j : JobId) (c : CellId) (h : w.lookup? j = some c) :
      Opening rules w (.stop j) .keep (.calling c (.arriving .stop) .deliver)
  | status (j : JobId) (c : CellId) (h : w.lookup? j = some c) :
      Opening rules w (.status j) .keep (.calling c (.arriving .status) .deliver)
  | release (j : JobId) (c : CellId) (h : w.lookup? j = some c) :
      Opening rules w (.release j) .keep (.calling c (.arriving .status) (.release j))
  | dismiss (j : JobId) (c : CellId) (h : w.lookup? j = some c) (s : TaskId)
      (hs : w.supervisors.lookup j = some s) :
      Opening rules w (.unsupervise j) (.dismiss j)
        (.joining s (some (w.graceEnd rules)) (.showCell c))
  | dismissNobody (j : JobId) (c : CellId) (h : w.lookup? j = some c)
      (hs : w.supervisors.lookup j = none) :
      Opening rules w (.unsupervise j) (.dismiss j) (.calling c (.arriving .status) .deliver)
  | join (j : JobId) (s : TaskId) (hs : w.supervisors.lookup j = some s) :
      Opening rules w (.join j) (.take j) (.joining s none (.showJob j))
  | joinNobody (j : JobId) (c : CellId) (hs : w.supervisors.lookup j = none)
      (h : w.lookup? j = some c) :
      Opening rules w (.join j) (.take j) (.calling c (.arriving .status) .deliver)
  | joinNothing (j : JobId) (hs : w.supervisors.lookup j = none) (h : w.lookup? j = none) :
      Opening rules w (.join j) (.take j) (.finished (.error (.notFound j)))
  | shutdown (s : TaskId) (rest : List TaskId) :
      Opening rules w .shutdown .close (.joining s (some (w.graceEnd rules)) (.shutdown rest))
  | shutdownNobody : Opening rules w .shutdown .close (.finished (.ok (.shutDown true)))
  | call (c : CellId) (e : GuardedOperation) :
      Opening rules w (.call c e) .keep (.calling c (.arriving e) .deliver)
  | await (s : TaskId) : Opening rules w (.await s) .keep (.joining s none .deliver)
  | sleep (millis : Nat) : Opening rules w (.sleep millis) .keep (.sleeping (w.clock + millis))

/-- How a task goes on when it neither begins nor talks. -/
inductive Moving (rules : Rules) (w : World σ) : Activity → Activity → Prop where
  | pause (c : CellId) (due : Nat) : Moving rules w (.summoned c) (.pausing c due)
  | poll (c : CellId) (due : Nat) :
      Moving rules w (.pausing c due) (.calling c (.arriving .poll) .watch)
  | comeBack (c : CellId) (e : GuardedOperation) (due : Nat) (p : Purpose) :
      Moving rules w (.calling c (.resting e due) p) (.calling c (.arriving e) p)
  | vanish (c : CellId) (stage : CallStage) (p : Purpose) (h : w.cell? c = none) :
      Moving rules w (.calling c stage p) (.finished (.ok .nothing))
  | showCell (s : TaskId) (due : Option Nat) (c : CellId) :
      Moving rules w (.joining s due (.showCell c)) (.calling c (.arriving .status) .deliver)
  | showJob (s : TaskId) (due : Option Nat) (j : JobId) (c : CellId) (h : w.lookup? j = some c) :
      Moving rules w (.joining s due (.showJob j)) (.calling c (.arriving .status) .deliver)
  | notFound (s : TaskId) (due : Option Nat) (j : JobId) (h : w.lookup? j = none) :
      Moving rules w (.joining s due (.showJob j)) (.finished (.error (.notFound j)))
  | nextShutdown (s s' : TaskId) (due : Option Nat) (rest : List TaskId) :
      Moving rules w (.joining s due (.shutdown (s' :: rest)))
        (.joining s' (some (w.graceEnd rules)) (.shutdown rest))
  | shutDown (s : TaskId) (due : Option Nat) :
      Moving rules w (.joining s due (.shutdown [])) (.finished (.ok (.shutDown w.shutDown)))
  | deliver (s : TaskId) (due : Option Nat) (r : TaskResult) :
      Moving rules w (.joining s due .deliver) (.finished r)
  | wake (due : Nat) : Moving rules w (.sleeping due) (.finished (.ok .nothing))

open World

/-- What an action can do to a world, with the step of dialogue in it. -/
inductive Change (rules : Rules) (cluster : Cluster σ) (w : World σ) :
    Action σ → Option DialogueStep → World σ → Prop where
  /-- Nothing happens. -/
  | nothing (a : Action σ) : Change rules cluster w a none w
  /-- A task is dropped when it is its turn. -/
  | doomed (t : TaskId) (task : Task) (ht : w.task? t = some task)
      (hf : task.isFinished = false) (hd : w.isDoomed task = true) :
      Change rules cluster w (.step t) none (w.drop t)
  /-- A task is dropped by whoever made its request. -/
  | dropped (t : TaskId) (task : Task) (ht : w.task? t = some task)
      (hf : task.isFinished = false) (hs : task.activity.supervised? = none) :
      Change rules cluster w (.drop t) none (w.drop t)
  /-- A task begins its request. -/
  | begun (t : TaskId) (task : Task) (ht : w.task? t = some task) (hd : w.isDoomed task = false)
      (request : Request) (h : task.activity = .fresh request) (b : Bookkeeping) (a : Activity)
      (ho : Opening rules w request b a) :
      Change rules cluster w (.step t) none ((w.book b).goOn t a)
  /-- A task goes on. -/
  | moved (t : TaskId) (a a' : Activity) (h : w.activity? t = some a) (hm : Moving rules w a a') :
      Change rules cluster w (.step t) none (w.goOn t a')
  /-- A task finds the lock taken. -/
  | queued (t : TaskId) (c : CellId) (e : GuardedOperation) (p : Purpose)
      (h : w.activity? t = some (.calling c (.arriving e) p)) (cell : Cell)
      (hc : w.cell? c = some cell) (hl : cell.holder ≠ none) :
      Change rules cluster w (.step t) none
        ({ w with cells := w.cells.set c { cell with queue := cell.queue ++ [t] } }.goOn t
          (.calling c (.queued e) p))
  /-- A task talks and asks. -/
  | asked (t : TaskId) (task : Task) (ht : w.task? t = some task) (hd : w.isDoomed task = false)
      (c : CellId) (stage : CallStage) (p : Purpose) (h : task.activity = .calling c stage p)
      (cell : Cell) (hc : w.cell? c = some cell) (hr : w.callReady t c stage = true)
      (trigger : Trigger)
      (c' : Container) (events : List EventPayload) (q : Query) (next)
      (hu : w.utterance? rules cluster cell stage = some (trigger, .ask c' events q next)) (k : σ)
      (due : Nat) :
      Change rules cluster w (.step t)
        (some ⟨t, p, c, cell.container, trigger, .ask c' events q next⟩)
        ((w.leave k c { cell with container := c', holder := stage.locker t cell } events).goOn t
          (.calling c (.asking q next due) p))
  /-- A task talks and comes to the end of its call. -/
  | replied (t : TaskId) (task : Task) (ht : w.task? t = some task) (hd : w.isDoomed task = false)
      (c : CellId) (stage : CallStage) (p : Purpose) (h : task.activity = .calling c stage p)
      (cell : Cell) (hc : w.cell? c = some cell) (hr : w.callReady t c stage = true)
      (trigger : Trigger)
      (c' : Container) (events : List EventPayload) (reply : CallReply)
      (hu : w.utterance? rules cluster cell stage =
        some (trigger, .done ⟨c', events, .reply reply⟩))
      (k : σ) :
      Change rules cluster w (.step t)
        (some ⟨t, p, c, cell.container, trigger, .done ⟨c', events, .reply reply⟩⟩)
        (((w.leave k c (handOn { cell with container := c' }) events).book
          (p.booking c reply)).goOn t (w.sequel rules c p reply))
  /-- A task talks, lets the lock go, and is to come back. -/
  | putOff (t : TaskId) (task : Task) (ht : w.task? t = some task) (hd : w.isDoomed task = false)
      (c : CellId) (stage : CallStage) (p : Purpose) (h : task.activity = .calling c stage p)
      (cell : Cell) (hc : w.cell? c = some cell) (hr : w.callReady t c stage = true)
      (trigger : Trigger)
      (c' : Container) (events : List EventPayload) (delay : Nat) (e : GuardedOperation)
      (hu : w.utterance? rules cluster cell stage =
        some (trigger, .done ⟨c', events, .again delay e⟩)) (k : σ) (stage' : CallStage)
      (hs : stage' = .arriving e ∨ ∃ due, stage' = .resting e due) :
      Change rules cluster w (.step t)
        (some ⟨t, p, c, cell.container, trigger, .done ⟨c', events, .again delay e⟩⟩)
        ((w.leave k c (handOn { cell with container := c' }) events).goOn t
          (.calling c stage' p))
  /-- A request is made. -/
  | requested (request : Request) (h : request.isOffered = true) :
      Change rules cluster w (.request request) none (w.addTask (.fresh request)).1
  /-- A container is entered. -/
  | created (identity : JobIdentity) (h : w.lookup? identity.jobId = none) :
      Change rules cluster w (.create identity) none (w.enter (.create identity))
  /-- A container is entered, and it is polled from now on. -/
  | restored (identity : JobIdentity) (runId : RunId) (hd : w.shutDown = false)
      (h : w.lookup? identity.jobId = none) :
      Change rules cluster w (.restore identity runId) none
        ((w.enter (.restore identity runId)).book (.supervise w.cells.length identity.jobId))
  /-- A container is shared that is in no books. -/
  | shared (identity : JobIdentity) (runId : Option RunId) (container : Container)
      (h : container = .create identity ∨ ∃ r, container = .restore identity r) :
      Change rules cluster w (.share identity runId) none (w.addCell container).1
  /-- The supervision is shut down without waiting. -/
  | cancelled : Change rules cluster w .cancel none w.cancel
  /-- Time passes, or the cluster changes. -/
  | drifted (a : Action σ) (clock : Nat) (k : σ) :
      Change rules cluster w a none { w with clock := clock, cluster := k }

/-! ### Every action is in the list -/

namespace World

variable {rules : Rules} {cluster : Cluster σ} {w : World σ}

lemma modifyCell_eq {c : CellId} {cell : Cell} (hc : w.cell? c = some cell) (f : Cell → Cell) :
    w.modifyCell c f = { w with cells := w.cells.set c (f cell) } := by
  have hcells : w.cells.modify c f = w.cells.set c (f cell) := by
    apply List.ext_getElem?
    intro i
    rw [List.getElem?_modify, List.getElem?_set]
    by_cases hi : c = i
    · subst hi
      obtain ⟨hlt, hget⟩ := List.getElem?_eq_some_iff.1 hc
      simp [hlt, hget]
    · simp [hi]
  simp only [modifyCell, hcells]

lemma handOn_holder (cell : Cell) (holder : Option TaskId) :
    handOn { cell with holder := holder } = handOn cell := by
  unfold handOn
  cases cell.queue <;> rfl

lemma takeReply_eq (t : TaskId) (c : CellId) (p : Purpose) (reply : CallReply) :
    w.takeReply rules t c p reply =
      (w.book (p.booking c reply)).goOn t (w.sequel rules c p reply) := by
  cases p with
  | deliver => rfl
  | start =>
    rcases reply with e | s | s
    · rfl
    · simp only [takeReply, Purpose.booking, sequel]
      split <;> rfl
    · rfl
  | release j =>
    rcases reply with e | s | s
    · rfl
    · simp only [takeReply, Purpose.booking, sequel]
      split <;> rfl
    · rfl
  | watch =>
    rcases reply with e | v
    · rfl
    · simp only [takeReply, Purpose.booking, sequel]
      split <;> rfl
  | watchState =>
    simp only [takeReply, Purpose.booking, sequel]
    split <;> rfl

lemma begin_opening (rules : Rules) (w : World σ) (t : TaskId) (request : Request) :
    ∃ b a, Opening rules w request b a ∧ w.begin rules t request = (w.book b).goOn t a := by
  cases request with
  | start j =>
    by_cases hd : w.shutDown = true
    · exact ⟨_, _, .refused _ .shutDown nofun, by simp [begin, hd, book, finish]⟩
    rw [Bool.not_eq_true] at hd
    cases h : w.lookup? j with
    | none => exact ⟨_, _, .refused _ (.notFound j) nofun, by simp [begin, hd, h, book, finish]⟩
    | some c => exact ⟨_, _, .start j c hd h, by simp [begin, hd, h, book, call]⟩
  | stop j =>
    cases h : w.lookup? j with
    | none => exact ⟨_, _, .refused _ (.notFound j) nofun, by simp [begin, h, book, finish]⟩
    | some c => exact ⟨_, _, .stop j c h, by simp [begin, h, book, call]⟩
  | status j =>
    cases h : w.lookup? j with
    | none =>
      exact ⟨_, _, .refused _ (.notFound j) nofun, by simp [begin, showJob, h, book, finish]⟩
    | some c => exact ⟨_, _, .status j c h, by simp [begin, showJob, h, book, call]⟩
  | release j =>
    cases h : w.lookup? j with
    | none => exact ⟨_, _, .refused _ (.notFound j) nofun, by simp [begin, h, book, finish]⟩
    | some c => exact ⟨_, _, .release j c h, by simp [begin, h, book, call]⟩
  | unsupervise j =>
    cases h : w.lookup? j with
    | none => exact ⟨_, _, .refused _ (.notFound j) nofun, by simp [begin, h, book, finish]⟩
    | some c =>
      cases hs : w.supervisors.lookup j with
      | none =>
        exact ⟨_, _, .dismissNobody j c h hs, by simp [begin, h, hs, takeSupervisor, book, call]⟩
      | some s =>
        exact ⟨_, _, .dismiss j c h s hs, by
          simp [begin, h, hs, takeSupervisor, book, graceEnd, detach, modifyTask]⟩
  | join j =>
    cases hs : w.supervisors.lookup j with
    | some s => exact ⟨_, _, .join j s hs, by simp [begin, hs, takeSupervisor, book]⟩
    | none =>
      cases h : w.lookup? j with
      | some c =>
        refine ⟨_, _, .joinNobody j c hs h, ?_⟩
        rw [lookup?] at h
        simp [begin, hs, takeSupervisor, showJob, lookup?, h, book, call]
      | none =>
        refine ⟨_, _, .joinNothing j hs h, ?_⟩
        rw [lookup?] at h
        simp [begin, hs, takeSupervisor, showJob, lookup?, h, book, finish]
  | shutdown =>
    cases hs : w.supervisors.map (·.2) with
    | nil => exact ⟨_, _, .shutdownNobody, by simp only [begin, hs]; rfl⟩
    | cons s rest => exact ⟨_, _, .shutdown s rest, by simp only [begin, hs]; rfl⟩
  | call c e => exact ⟨_, _, .call c e, rfl⟩
  | await s => exact ⟨_, _, .await s, rfl⟩
  | sleep millis => exact ⟨_, _, .sleep millis, rfl⟩

lemma afterJoin_moving (rules : Rules) (w : World σ) (t s : TaskId) (due : Option Nat)
    (next : Afterwards) :
    ∃ a, Moving rules w (.joining s due next) a ∧ w.afterJoin rules t s next = w.goOn t a := by
  cases next with
  | showCell c => exact ⟨_, .showCell s due c, rfl⟩
  | showJob j =>
    cases h : w.lookup? j with
    | none => exact ⟨_, .notFound s due j h, by simp [afterJoin, showJob, h, finish]⟩
    | some c => exact ⟨_, .showJob s due j c h, by simp [afterJoin, showJob, h, call]⟩
  | shutdown rest =>
    cases rest with
    | nil => exact ⟨_, .shutDown s due, rfl⟩
    | cons s' rest => exact ⟨_, .nextShutdown s s' due rest, rfl⟩
  | deliver => exact ⟨_, .deliver s due _, rfl⟩

/-- A call that talks does so with the lock. -/
lemma stepCall_converse {t : TaskId} {c : CellId} {p : Purpose} {cell : Cell} {stage : CallStage}
    (hc : w.cell? c = some cell) (hr : w.callReady t c stage = true) {trigger : Trigger}
    {d : Dialogue Turn} (hu : w.utterance? rules cluster cell stage = some (trigger, d)) :
    ∃ k, w.stepCall rules cluster t c p cell stage =
      { w with
        cells := w.cells.set c { cell with holder := stage.locker t cell },
        cluster := k }.converse rules cluster t c p d := by
  have hset : w.cells.set c cell = w.cells := by
    obtain ⟨hlt, hget⟩ := List.getElem?_eq_some_iff.1 hc
    rw [← hget, List.set_getElem_self]
  cases stage with
  | arriving e =>
    simp only [utterance?] at hu
    split at hu
    · cases hu
      have hnone : cell.holder = none := Option.isNone_iff_eq_none.1 ‹_›
      refine ⟨w.cluster, ?_⟩
      simp only [stepCall, hnone, doOperation, modifyCell_eq hc, CallStage.locker]
    · cases hu
  | queued e =>
    cases hu
    have hholder : cell.holder = some t := by simpa [callReady, hc] using hr
    refine ⟨w.cluster, ?_⟩
    simp only [stepCall, doOperation, CallStage.locker, ← hholder, hset]
  | asking q next due =>
    cases hu
    refine ⟨(cluster.answer w.cluster q).1, ?_⟩
    simp only [stepCall, CallStage.locker, hset]
  | resting e due => cases hu

/-- A task that talks changes the world in one of three ways. -/
lemma stepCall_change {t : TaskId} {task : Task} (ht : w.task? t = some task)
    (hd : w.isDoomed task = false) {c : CellId} {stage : CallStage} {p : Purpose}
    (h : task.activity = .calling c stage p) {cell : Cell} (hc : w.cell? c = some cell)
    (hr : w.callReady t c stage = true) {trigger : Trigger} {d : Dialogue Turn}
    (hu : w.utterance? rules cluster cell stage = some (trigger, d)) :
    Change rules cluster w (.step t) (some ⟨t, p, c, cell.container, trigger, d⟩)
      (w.stepCall rules cluster t c p cell stage) := by
  obtain ⟨k, hk⟩ := stepCall_converse (p := p) hc hr hu
  rw [hk]
  have hlt : c < w.cells.length := (List.getElem?_eq_some_iff.1 hc).1
  have hcell : ({ w with
      cells := w.cells.set c { cell with holder := stage.locker t cell },
      cluster := k } : World σ).cell? c = some { cell with holder := stage.locker t cell } := by
    simp [cell?, hlt]
  cases d with
  | ask c' events q next =>
    simp only [converse, modifyCell_eq hcell, List.set_set]
    exact .asked t task ht hd c stage p h cell hc hr trigger c' events q next hu _ _
  | done r =>
    obtain ⟨c', events, turn⟩ := r
    simp only [converse, modifyCell_eq hcell, List.set_set]
    -- the lock goes on to the next task, so that it does not matter who had it
    rw [show handOn { cell with holder := stage.locker t cell, container := c' } =
      handOn { cell with container := c' } from handOn_holder { cell with container := c' } _]
    have hjob : (handOn { cell with container := c' }).container = c' := by
      unfold handOn
      split <;> rfl
    cases turn with
    | reply reply =>
      simp only [takeReply_eq]
      have hchange := @Change.replied σ rules cluster w t task ht hd c stage p h cell hc hr
        trigger c'
        events reply hu k
      rw [leave, hjob] at hchange
      exact hchange
    | again delay e =>
      have hchange := @Change.putOff σ rules cluster w t task ht hd c stage p h cell hc hr
        trigger c'
        events delay e hu k
      rw [leave, hjob] at hchange
      by_cases hdelay : delay = 0
      · simp only [hdelay, if_true, call]
        rw [hdelay] at hchange
        exact hchange _ (.inl rfl)
      · simp only [hdelay, if_false]
        exact hchange _ (.inr ⟨_, rfl⟩)

lemma step_change (t : TaskId) :
    Change rules cluster w (.step t) (w.dialogueStep? rules cluster t)
      (w.step rules cluster t) := by
  unfold step dialogueStep?
  cases ht : w.task? t with
  | none => simpa using .nothing _
  | some task =>
    obtain ⟨activity, detached, aborted⟩ := task
    by_cases he : w.isEnabled t = true
    swap
    -- a task that cannot go on stays where it is
    · simpa [he] using .nothing _
    have hf : Task.isFinished ⟨activity, detached, aborted⟩ = false := by
      simp only [isEnabled, ht, Bool.and_eq_true, Bool.not_eq_true'] at he
      exact he.1
    by_cases hd : w.isDoomed ⟨activity, detached, aborted⟩ = true
    · simpa [he, hd] using .doomed t _ ht hf hd
    rw [Bool.not_eq_true] at hd
    have hready : w.isReady t activity = true := by
      simpa [isEnabled, ht, hf, hd] using he
    have ha : w.activity? t = some activity := by rw [activity?, ht]; rfl
    simp only [he, hd, Bool.not_true, Bool.false_eq_true, if_false, Bool.or_self]
    cases activity with
    | fresh request =>
      obtain ⟨b, a, ho, hb⟩ := begin_opening rules w t request
      simp only [hb]
      exact .begun t _ ht hd request rfl b a ho
    | summoned c => exact .moved t _ _ ha (.pause c _)
    | pausing c due => exact .moved t _ _ ha (.poll c due)
    | calling c stage p =>
      cases hc : w.cell? c with
      | none =>
        simp only [hc]
        exact .moved t _ _ ha (.vanish c stage p hc)
      | some cell =>
        simp only [hc, Option.bind_some]
        cases hu : w.utterance? rules cluster cell stage with
        | some u => exact stepCall_change ht hd rfl hc hready hu
        | none =>
          -- it says nothing, because the lock is taken or it only rested
          cases stage with
          | arriving e =>
            simp only [utterance?, ite_eq_right_iff, reduceCtorEq, imp_false] at hu
            cases hl : cell.holder with
            | none => simp [hl] at hu
            | some s =>
              simp only [stepCall, hl, modifyCell_eq hc]
              rw [← hl]
              exact .queued t c e p ha cell hc (by simp [hl])
          | queued e => cases hu
          | asking q next due => cases hu
          | resting e due => exact .moved t _ _ ha (.comeBack c e due p)
    | joining s due next =>
      obtain ⟨a, hm, hj⟩ := afterJoin_moving rules w t s due next
      simp only [hj]
      exact .moved t _ _ ha hm
    | sleeping due => exact .moved t _ _ ha (.wake due)
    | finished r => cases hf

/-- Every action changes the world in one of the ways in the list. -/
theorem act_change (rules : Rules) (cluster : Cluster σ) (w : World σ) (a : Action σ) :
    Change rules cluster w a (w.dialogueStepOf? rules cluster a) (w.act rules cluster a) := by
  cases a with
  | step t => exact step_change t
  | request request =>
    simp only [act, dialogueStepOf?]
    split
    · exact .requested request ‹_›
    · exact .nothing _
  | drop t =>
    simp only [act, dialogueStepOf?, dropRequest]
    cases ht : w.task? t with
    | none => exact .nothing _
    | some task =>
      simp only
      split
      · exact .nothing _
      · next hnot =>
        simp only [Bool.or_eq_true, not_or, Bool.not_eq_true, Option.isSome_eq_false_iff,
          Option.isNone_iff_eq_none] at hnot
        exact .dropped t task ht hnot.1 hnot.2
  | create identity =>
    simp only [act, dialogueStepOf?, World.create, insert]
    cases h : w.lookup? (Container.create identity).jobId with
    | some c => exact .nothing _
    | none => exact .created identity h
  | restore identity runId =>
    simp only [act, dialogueStepOf?, World.restore, insert]
    by_cases hd : w.shutDown = true
    · simpa [hd] using .nothing _
    rw [Bool.not_eq_true] at hd
    cases h : w.lookup? (Container.restore identity runId).jobId with
    | some c => simpa [hd] using .nothing _
    | none => simpa [hd] using .restored identity runId hd h
  | share identity runId =>
    cases runId with
    | none => exact .shared identity none _ (.inl rfl)
    | some r => exact .shared identity (some r) _ (.inr ⟨r, rfl⟩)
  | cancel => exact .cancelled
  | pass millis => exact .drifted _ _ _
  | shift state => exact .drifted _ _ _

end World

end JobSupervision.Supervision
