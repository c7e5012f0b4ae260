/-
# The world of supervised containers

Containers behind locks, the tasks that work on them, and the registry that ties jobs to
containers and to the tasks that poll them.  A task is a program point: what it waits for and
what it does next.  Nothing here runs by itself; `Supervision/Step` says what one task does
when it goes on, and a schedule says which task that is.
-/
import JobSupervision.Cluster.Basic
import JobSupervision.EventBus
import JobSupervision.Guarded.Operation
import JobSupervision.Settings

namespace JobSupervision.Supervision

/-- The number of a container among all containers that were ever made. -/
abbrev CellId := Nat

/-- The number of a task among all tasks that were ever started. -/
abbrev TaskId := Nat

/-- A container behind a lock that is handed on in the order of arrival. -/
structure Cell where
  /-- The container as of the last question or operation. -/
  container : Container
  /-- The task that has the lock. -/
  holder : Option TaskId
  /-- The tasks that wait for the lock, first come first. -/
  queue : List TaskId

/-- Why a request to the supervision fails. -/
inductive RequestError where
  /-- An operation on the container failed. -/
  | container (error : ContainerError)
  /-- The job has a container already. -/
  | alreadyExists (jobId : JobId)
  /-- The job has no container. -/
  | notFound (jobId : JobId)
  /-- The supervision was shut down. -/
  | shutDown
  /-- The job has not ended and stays. -/
  | notReleasable (jobId : JobId) (state : ContainerState)
deriving DecidableEq, Repr

/-- The text of an error. -/
def RequestError.message : RequestError → String
  | .container e => e.message
  | .alreadyExists job => "a container for job " ++ job.text ++ " already exists"
  | .notFound job => "no container for job " ++ job.text
  | .shutDown => "container runtime is shut down"
  | .notReleasable job state =>
    "job " ++ job.text ++ " is " ++ state.name ++ " and cannot be released"

/-- What a task gives when it ends. -/
inductive TaskValue where
  /-- What a call on a container gave. -/
  | call (value : CallValue)
  /-- The end of a shutdown: whether the supervision is shut down. -/
  | shutDown (cancelled : Bool)
  /-- Nothing. -/
  | nothing
deriving DecidableEq, Repr

/-- The result of a task. -/
abbrev TaskResult := Except RequestError TaskValue

/-- Where a call on a container stands. -/
inductive CallStage where
  /-- It comes for the lock. -/
  | arriving (operation : GuardedOperation)
  /-- It waits for the lock in the queue. -/
  | queued (operation : GuardedOperation)
  /-- It has the lock and waits for an answer, which is there at the given time. -/
  | asking (query : Query) (next : query.Answer → Dialogue Turn) (due : Nat)
  /-- It waits without the lock until the given time. -/
  | resting (operation : GuardedOperation) (due : Nat)

/-- What the reply to a call is for. -/
inductive Purpose where
  /-- It is the result of the task. -/
  | deliver
  /-- The job was submitted; unless it has ended it is to be polled from now on. -/
  | start
  /-- The job is to be released if it has ended. -/
  | release (jobId : JobId)
  /-- A supervising task has polled the container. -/
  | watch
  /-- A supervising task looks whether the container has ended after a failed poll. -/
  | watchState
deriving DecidableEq, Repr

/-- What follows when a supervising task has ended or was waited for long enough. -/
inductive Afterwards where
  /-- Show the container. -/
  | showCell (cell : CellId)
  /-- Look the job up and show its container. -/
  | showJob (jobId : JobId)
  /-- Wait for further tasks, then the shutdown has ended. -/
  | shutdown (rest : List TaskId)
  /-- Hand on the result of the task. -/
  | deliver
deriving DecidableEq, Repr

/-- A request that may have to wait. -/
inductive Request where
  /-- Submit a job and poll it from then on. -/
  | start (jobId : JobId)
  /-- Stop the run of a job. -/
  | stop (jobId : JobId)
  /-- Show the container of a job. -/
  | status (jobId : JobId)
  /-- Forget a job that has ended. -/
  | release (jobId : JobId)
  /-- End the polling of a job. -/
  | unsupervise (jobId : JobId)
  /-- Wait until the polling of a job ends by itself. -/
  | join (jobId : JobId)
  /-- End all polling. -/
  | shutdown
  /-- Do an operation on a container. -/
  | call (cell : CellId) (operation : GuardedOperation)
  /-- Wait until a task has ended and take its result. -/
  | await (task : TaskId)
  /-- Let some milliseconds pass. -/
  | sleep (millis : Nat)

/-- What a task is doing. -/
inductive Activity where
  /-- It was started with a request and has not run yet. -/
  | fresh (request : Request)
  /-- It supervises a container and has not run yet. -/
  | summoned (cell : CellId)
  /-- It supervises a container and pauses until the given time. -/
  | pausing (cell : CellId) (due : Nat)
  /-- It makes a call on a container. -/
  | calling (cell : CellId) (stage : CallStage) (purpose : Purpose)
  /-- It waits until another task has ended, or until the given time. -/
  | joining (task : TaskId) (due : Option Nat) (next : Afterwards)
  /-- It sleeps until the given time. -/
  | sleeping (due : Nat)
  /-- It has ended. -/
  | finished (result : TaskResult)

/-- A task. -/
structure Task where
  /-- What it is doing. -/
  activity : Activity
  /-- Whether a supervising task was told to end. -/
  detached : Bool := false
  /-- Whether the task is to be dropped when it is its turn. -/
  aborted : Bool := false

/-- Whether a task has ended. -/
def Task.isFinished (t : Task) : Bool :=
  match t.activity with
  | .finished _ => true
  | _ => false

/-- How containers are supervised. -/
structure Rules where
  /-- How often and how fast recovery is tried. -/
  policy : RetryPolicy
  /-- The settings of the supervision. -/
  settings : SupervisorSettings

/-- Everything there is. -/
structure World (σ : Type) where
  /-- The time in milliseconds. -/
  clock : Nat
  /-- The state of the cluster. -/
  cluster : σ
  /-- All containers that were ever made. -/
  cells : List Cell
  /-- All tasks that were ever started. -/
  tasks : List Task
  /-- The container of each job that is known. -/
  registry : List (JobId × CellId)
  /-- The supervising task of each job that has one.  A lock guards these books, but whoever has it
  gives it back before waiting for anything.  Taking it, looking into the books, changing them and
  giving it back is therefore one step of a task, and nobody is ever seen to wait for it. -/
  supervisors : List (JobId × TaskId)
  /-- Whether the supervision was shut down. -/
  shutDown : Bool
  /-- Where events are published. -/
  bus : EventBus ContainerEvent

namespace World

variable {σ : Type}

/-- A world without containers. -/
def empty (cluster : σ) (bus : EventBus ContainerEvent) : World σ :=
  ⟨0, cluster, [], [], [], [], false, bus⟩

/-- A container by its number. -/
def cell? (w : World σ) (c : CellId) : Option Cell := w.cells[c]?

/-- A task by its number. -/
def task? (w : World σ) (t : TaskId) : Option Task := w.tasks[t]?

/-- Changes a container. -/
def modifyCell (w : World σ) (c : CellId) (f : Cell → Cell) : World σ :=
  { w with cells := w.cells.modify c f }

/-- Changes a task. -/
def modifyTask (w : World σ) (t : TaskId) (f : Task → Task) : World σ :=
  { w with tasks := w.tasks.modify t f }

/-- Lets a task go on with an activity. -/
def goOn (w : World σ) (t : TaskId) (activity : Activity) : World σ :=
  w.modifyTask t fun task => { task with activity := activity }

/-- Adds a container that nobody works on. -/
def addCell (w : World σ) (container : Container) : World σ × CellId :=
  ({ w with cells := w.cells ++ [⟨container, none, []⟩] }, w.cells.length)

/-- Starts a task. -/
def addTask (w : World σ) (activity : Activity) : World σ × TaskId :=
  ({ w with tasks := w.tasks ++ [{ activity := activity }] }, w.tasks.length)

/-- Whether a task has ended; a task that never was has. -/
def hasFinished (w : World σ) (t : TaskId) : Bool :=
  match w.task? t with
  | some task => task.isFinished
  | none => true

/-- The result of a task that has ended. -/
def result? (w : World σ) (t : TaskId) : Option TaskResult :=
  match w.task? t with
  | some ⟨.finished r, _, _⟩ => some r
  | _ => none

/-- The container of a job. -/
def lookup? (w : World σ) (jobId : JobId) : Option CellId := w.registry.lookup jobId

/-- Publishes what happened to a container. -/
def publish (w : World σ) (jobId : JobId) (payloads : List EventPayload) : World σ :=
  { w with bus := w.bus.publishAll (payloads.map (ContainerEvent.of jobId)) }

end World

end JobSupervision.Supervision
