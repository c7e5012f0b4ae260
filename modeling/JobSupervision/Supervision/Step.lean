/-
# Steps of supervised containers

What one task does when it goes on.  A step takes a task from one point at which it may wait
to the next one: it asks for a lock, asks a question, takes an answer, ends a pause, or ends.
A task that waits for something that is not there yet is not enabled.  A supervising task that
is told to end is dropped where it stands, unless it is looking at the state after a failed
poll; a dropped task gives its lock, or its place in the queue, back.
-/
import JobSupervision.Supervision.World

namespace JobSupervision.Supervision.World

variable {σ : Type}

/-! ### Locks -/

/-- Hands the lock of a container to the first task that waits for it. -/
def handOn (cell : Cell) : Cell :=
  match cell.queue with
  | [] => { cell with holder := none }
  | t :: rest => { cell with holder := some t, queue := rest }

/-- Gives back the lock of a container, or the place in its queue. -/
def withdraw (t : TaskId) (cell : Cell) : Cell :=
  if cell.holder = some t then handOn cell else { cell with queue := cell.queue.filter (· ≠ t) }

/-! ### Supervision -/

/-- Forgets the supervising tasks that have ended. -/
def prune (w : World σ) : World σ :=
  { w with supervisors := w.supervisors.filter fun s => !w.hasFinished s.2 }

/-- Has a container polled from now on, unless a task polls it already. -/
def supervise (w : World σ) (c : CellId) (jobId : JobId) : World σ :=
  let w := w.prune
  if (w.supervisors.lookup jobId).isSome then w
  else
    let (w, t) := w.addTask (.summoned c)
    { w with supervisors := (jobId, t) :: w.supervisors }

/-- Takes the supervising task of a job out of the books. -/
def takeSupervisor (w : World σ) (jobId : JobId) : Option TaskId × World σ :=
  (w.supervisors.lookup jobId,
    { w with supervisors := w.supervisors.filter fun s => s.1 ≠ jobId })

/-- Tells a supervising task to end. -/
def detach (w : World σ) (t : TaskId) : World σ :=
  w.modifyTask t fun task => { task with detached := true }

/-- Has a task dropped when it is its turn. -/
def abort (w : World σ) (t : TaskId) : World σ :=
  w.modifyTask t fun task => { task with aborted := true }

/-- How many tasks in the books supervise and have not ended. -/
def activeSupervisors (w : World σ) : Nat := w.supervisors.countP fun s => !w.hasFinished s.2

/-! ### Ends and replies -/

/-- Ends a task. -/
def finish (w : World σ) (t : TaskId) (result : TaskResult) : World σ := w.goOn t (.finished result)

/-- Ends a task with the reply to a call. -/
def finishCall (w : World σ) (t : TaskId) (reply : CallReply) : World σ :=
  w.finish t (match reply with
    | .ok v => .ok (.call v)
    | .error e => .error (.container e))

/-- Drops a task where it stands. -/
def drop (w : World σ) (t : TaskId) : World σ :=
  let w := match w.task? t with
    | some ⟨.calling c _ _, _, _⟩ => w.modifyCell c (withdraw t)
    | _ => w
  w.finish t (.ok .nothing)

/-- Starts a pause of a supervising task. -/
def pause (rules : Rules) (w : World σ) (t : TaskId) (c : CellId) : World σ :=
  w.goOn t (.pausing c (w.clock + rules.settings.pollIntervalMs.toNat))

/-- Starts a call on a container. -/
def call (w : World σ) (t : TaskId) (c : CellId) (operation : GuardedOperation)
    (purpose : Purpose) : World σ :=
  w.goOn t (.calling c (.arriving operation) purpose)

/-- Whether a reply shows a container that has ended. -/
def showsEnd : CallReply → Bool
  | .ok (.snapshot s) => s.state.isTerminal
  | .ok (.state s) => s.isTerminal
  | .error _ => false

/-- Forgets a job and drops its supervising task. -/
def forget (w : World σ) (jobId : JobId) : World σ :=
  let w := { w with registry := w.registry.filter fun r => r.1 ≠ jobId }
  match w.takeSupervisor jobId with
  | (some s, w) => (w.detach s).abort s
  | (none, w) => w

/-- What a task does with the reply to its call. -/
def takeReply (rules : Rules) (w : World σ) (t : TaskId) (c : CellId) (purpose : Purpose)
    (reply : CallReply) : World σ :=
  match purpose with
  | .deliver => w.finishCall t reply
  | .start =>
    match reply with
    | .ok (.snapshot s) =>
      (if s.state.isTerminal then w else w.supervise c s.jobId).finishCall t reply
    | _ => w.finishCall t reply
  | .release jobId =>
    match reply with
    | .ok (.snapshot s) =>
      if s.state.isTerminal then (w.forget jobId).finishCall t reply
      else w.finish t (.error (.notReleasable jobId s.state))
    | _ => w.finishCall t reply
  | .watch =>
    match reply with
    | .ok _ => if showsEnd reply then w.finish t (.ok .nothing) else w.pause rules t c
    | .error _ => w.call t c .state .watchState
  | .watchState => if showsEnd reply then w.finish t (.ok .nothing) else w.pause rules t c

/-- Goes on with a dialogue that a task holds while it has the lock. -/
def converse (rules : Rules) (cluster : Cluster σ) (w : World σ) (t : TaskId) (c : CellId)
    (purpose : Purpose) (dialogue : Dialogue Turn) : World σ :=
  match dialogue with
  | .ask container events query next =>
    let w := w.modifyCell c fun cell => { cell with container := container }
    let w := w.publish container.jobId events
    let (state, delay) := cluster.ask w.cluster query
    { w with cluster := state }.goOn t (.calling c (.asking query next (w.clock + delay)) purpose)
  | .done r =>
    let w := w.modifyCell c fun cell => handOn { cell with container := r.container }
    let w := w.publish r.container.jobId r.events
    match r.result with
    | .reply reply => w.takeReply rules t c purpose reply
    | .again delay operation =>
      if delay = 0 then w.call t c operation purpose
      else w.goOn t (.calling c (.resting operation (w.clock + delay)) purpose)

/-- Does an operation with the lock. -/
def doOperation (rules : Rules) (cluster : Cluster σ) (w : World σ) (t : TaskId) (c : CellId)
    (purpose : Purpose) (operation : GuardedOperation) (cell : Cell) : World σ :=
  w.converse rules cluster t c purpose (operation.hold rules.policy cell.container)

/-! ### Requests -/

/-- Shows the container of a job. -/
def showJob (w : World σ) (t : TaskId) (jobId : JobId) : World σ :=
  match w.lookup? jobId with
  | none => w.finish t (.error (.notFound jobId))
  | some c => w.call t c .status .deliver

/-- When waiting for an ending supervision is given up. -/
def graceEnd (rules : Rules) (w : World σ) : Nat := w.clock + rules.settings.shutdownGraceMs.toNat

/-- Waits for some supervising tasks one after the other; then the shutdown has ended. -/
def awaitShutdown (rules : Rules) (w : World σ) (t : TaskId) : List TaskId → World σ
  | [] => w.finish t (.ok (.shutDown w.shutDown))
  | s :: rest => w.goOn t (.joining s (some (w.graceEnd rules)) (.shutdown rest))

/-- Starts a request. -/
def begin (rules : Rules) (w : World σ) (t : TaskId) (request : Request) : World σ :=
  match request with
  | .start jobId =>
    if w.shutDown then w.finish t (.error .shutDown)
    else
      match w.lookup? jobId with
      | none => w.finish t (.error (.notFound jobId))
      | some c => w.call t c .run .start
  | .stop jobId =>
    match w.lookup? jobId with
    | none => w.finish t (.error (.notFound jobId))
    | some c => w.call t c .stop .deliver
  | .status jobId => w.showJob t jobId
  | .release jobId =>
    match w.lookup? jobId with
    | none => w.finish t (.error (.notFound jobId))
    | some c => w.call t c .status (.release jobId)
  | .unsupervise jobId =>
    match w.lookup? jobId with
    | none => w.finish t (.error (.notFound jobId))
    | some c =>
      match w.takeSupervisor jobId with
      | (none, w) => w.call t c .status .deliver
      | (some s, w) => (w.detach s).goOn t (.joining s (some (w.graceEnd rules)) (.showCell c))
  | .join jobId =>
    match w.takeSupervisor jobId with
    | (none, w) => w.showJob t jobId
    | (some s, w) => w.goOn t (.joining s none (.showJob jobId))
  | .shutdown =>
    let tasks := w.supervisors.map (·.2)
    { w with shutDown := true, supervisors := [] }.awaitShutdown rules t tasks
  | .call c operation => w.call t c operation .deliver
  | .await s => w.goOn t (.joining s none .deliver)
  | .sleep millis => w.goOn t (.sleeping (w.clock + millis))

/-- Goes on after another task has ended or was waited for long enough. -/
def afterJoin (rules : Rules) (w : World σ) (t s : TaskId) (next : Afterwards) : World σ :=
  match next with
  | .showCell c => w.call t c .status .deliver
  | .showJob jobId => w.showJob t jobId
  | .shutdown rest => w.awaitShutdown rules t rest
  | .deliver => w.finish t ((w.result? s).getD (.ok .nothing))

/-! ### Steps -/

/-- Whether a task is at a point at which being told to end drops it. -/
def canBeDetached : Activity → Bool
  | .summoned _ | .pausing _ _ | .calling _ _ .watch => true
  | _ => false

/-- Whether a task is to be dropped when it goes on. -/
def isDoomed (w : World σ) (task : Task) : Bool :=
  task.aborted || (canBeDetached task.activity && (w.shutDown || task.detached))

/-- Whether what a call waits for is there. -/
def callReady (w : World σ) (t : TaskId) (c : CellId) : CallStage → Bool
  | .arriving _ => true
  | .queued _ => (w.cell? c).any fun cell => cell.holder = some t
  | .asking _ _ due => due ≤ w.clock
  | .resting _ due => due ≤ w.clock

/-- Whether what a task waits for is there. -/
def isReady (w : World σ) (t : TaskId) : Activity → Bool
  | .fresh _ | .summoned _ => true
  | .pausing _ due => due ≤ w.clock
  | .calling c stage _ => w.callReady t c stage
  | .joining s due _ => w.hasFinished s || due.any (· ≤ w.clock)
  | .sleeping due => due ≤ w.clock
  | .finished _ => false

/-- Whether a task can go on. -/
def isEnabled (w : World σ) (t : TaskId) : Bool :=
  match w.task? t with
  | none => false
  | some task => !task.isFinished && (w.isDoomed task || w.isReady t task.activity)

/-- A call goes on. -/
def stepCall (rules : Rules) (cluster : Cluster σ) (w : World σ) (t : TaskId) (c : CellId)
    (purpose : Purpose) (cell : Cell) : CallStage → World σ
  | .arriving operation =>
    match cell.holder with
    | none =>
      let w := w.modifyCell c fun cell => { cell with holder := some t }
      w.doOperation rules cluster t c purpose operation cell
    | some _ =>
      let w := w.modifyCell c fun cell => { cell with queue := cell.queue ++ [t] }
      w.goOn t (.calling c (.queued operation) purpose)
  | .queued operation => w.doOperation rules cluster t c purpose operation cell
  | .asking query next _ =>
    let (state, a) := cluster.answer w.cluster query
    { w with cluster := state }.converse rules cluster t c purpose (next a)
  | .resting operation _ => w.call t c operation purpose

/-- A task goes on from where it stands to the next point at which it may wait.  A task that
is not enabled stays where it is. -/
def step (rules : Rules) (cluster : Cluster σ) (w : World σ) (t : TaskId) : World σ :=
  if !w.isEnabled t then w
  else
    match w.task? t with
    | none => w
    | some task =>
      if w.isDoomed task then w.drop t
      else
        match task.activity with
        | .fresh request => w.begin rules t request
        | .summoned c => w.pause rules t c
        | .pausing c _ => w.call t c .poll .watch
        | .calling c stage purpose =>
          match w.cell? c with
          | none => w.finish t (.ok .nothing)
          | some cell => w.stepCall rules cluster t c purpose cell stage
        | .joining s _ next => w.afterJoin rules t s next
        | .sleeping _ => w.finish t (.ok .nothing)
        | .finished _ => w

/-- A task that is not enabled stays where it is. -/
theorem step_of_not_isEnabled {rules : Rules} {cluster : Cluster σ} {w : World σ} {t : TaskId}
    (h : w.isEnabled t = false) : w.step rules cluster t = w := by
  simp [step, h]

end JobSupervision.Supervision.World
