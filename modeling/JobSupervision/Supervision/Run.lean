/-
# Runs

Everything that may happen to supervised containers, one thing after the other and in any
order: tasks go on, requests are made and dropped, containers come into being, time passes,
and the cluster changes by itself.  A run is a list of such actions.  Its history lists what
was said under the locks, in dialogue steps: a step of a dialogue reaches from where a task
takes the dialogue up to the next question or to the end.  The books of the supervision have
no lock here, because nobody waits while changing them.
-/
import JobSupervision.Supervision.Registry

namespace JobSupervision

/-- Whether a call on a container may begin with an operation.  A recovery begins with weighing;
its other operations follow from that. -/
def GuardedOperation.isCall : GuardedOperation → Bool
  | .weigh attempted => !attempted
  | .attempt _ => false
  | _ => true

/-- What sets a task talking while it has the lock. -/
inductive Trigger where
  /-- It begins an operation. -/
  | operation (operation : GuardedOperation)
  /-- It hears the answer to its question. -/
  | answer (query : Query) (answer : query.Answer)

namespace Dialogue

variable {α : Type}

/-- The container at the first question, or at the end if there is none. -/
def container : Dialogue α → Container
  | .done r => r.container
  | .ask c _ _ _ => c

/-- The events before the first question, or all if there is none. -/
def events : Dialogue α → List EventPayload
  | .done r => r.events
  | .ask _ events _ _ => events

/-- The first question. -/
def query? : Dialogue α → Option Query
  | .done _ => none
  | .ask _ _ q _ => some q

/-- The result of a dialogue that asks nothing. -/
def result? : Dialogue α → Option α
  | .done r => some r.result
  | .ask .. => none

end Dialogue

namespace Supervision

/-- A step of a dialogue that a task holds about a container. -/
structure DialogueStep where
  /-- The task. -/
  task : TaskId
  /-- What the task makes its call for. -/
  purpose : Purpose
  /-- The container. -/
  cell : CellId
  /-- The container before the dialogue step. -/
  before : Container
  /-- What sets the task talking. -/
  trigger : Trigger
  /-- The dialogue from there on. -/
  dialogue : Dialogue Turn

namespace DialogueStep

/-- The container after the dialogue step. -/
def after (s : DialogueStep) : Container := s.dialogue.container

/-- The question that the dialogue step ends with. -/
def query? (s : DialogueStep) : Option Query := s.dialogue.query?

/-- The reply to the call that the dialogue step ends with. -/
def reply? (s : DialogueStep) : Option CallReply :=
  match s.dialogue.result? with
  | some (.reply reply) => some reply
  | _ => none

/-- Whether the job is submitted. -/
def submits (s : DialogueStep) : Bool :=
  match s.query? with
  | some (.submit _) => true
  | _ => false

/-- The run that a submission gave. -/
def accepted? (s : DialogueStep) : Option RunId :=
  match s.trigger with
  | .answer (.submit _) (.ok runId) => some runId
  | _ => none

/-- Whether recovery goes over to a run that is new to the container. -/
def adopts (s : DialogueStep) : Bool :=
  match s.trigger with
  | .answer (.find _) (.ok (some runId)) => s.before.runId ≠ some runId
  | _ => false

/-- How many recovery attempts are started. -/
def attempts (s : DialogueStep) : Nat :=
  s.dialogue.events.countP fun
    | .recoveryAttempt .. => true
    | _ => false

end DialogueStep

/-- What may happen in a world whose cluster has states in `σ`. -/
inductive Action (σ : Type) where
  /-- A task goes on. -/
  | step (task : TaskId)
  /-- Somebody makes a request. -/
  | request (request : Request)
  /-- Whoever made a request drops it where it stands. -/
  | drop (task : TaskId)
  /-- A container is entered for a job that was not submitted yet. -/
  | create (identity : JobIdentity)
  /-- A container is entered for a job that runs already. -/
  | restore (identity : JobIdentity) (runId : RunId)
  /-- A container is shared that is in no books; with a run if its job runs already. -/
  | share (identity : JobIdentity) (runId : Option RunId)
  /-- The supervision is shut down without waiting. -/
  | cancel
  /-- Some milliseconds pass. -/
  | pass (millis : Nat)
  /-- The cluster changes by itself. -/
  | shift (cluster : σ)

/-- Whether a request can be made from outside. -/
def Request.isOffered : Request → Bool
  | .call _ operation => operation.isCall
  | _ => true

/-- The container that an activity supervises. -/
def Activity.supervised? : Activity → Option CellId
  | .summoned c | .pausing c _ | .calling c _ .watch | .calling c _ .watchState => some c
  | _ => none

namespace World

variable {σ : Type}

/-- What a task says next, and on which trigger, if it has the lock of a container or gets it. -/
def utterance? (rules : Rules) (cluster : Cluster σ) (w : World σ) (cell : Cell) :
    CallStage → Option (Trigger × Dialogue Turn)
  | .arriving operation =>
    if cell.holder.isNone then
      some (.operation operation, operation.hold rules.policy cell.container)
    else none
  | .queued operation => some (.operation operation, operation.hold rules.policy cell.container)
  | .asking query next _ =>
    let a := (cluster.answer w.cluster query).2
    some (.answer query a, next a)
  | .resting _ _ => none

/-- The step of dialogue in the next step of a task. -/
def dialogueStep? (rules : Rules) (cluster : Cluster σ) (w : World σ) (t : TaskId) :
    Option DialogueStep :=
  match w.task? t with
  | none => none
  | some task =>
    if !w.isEnabled t || w.isDoomed task then none
    else
      match task.activity with
      | .calling c stage purpose =>
        (w.cell? c).bind fun cell =>
          (w.utterance? rules cluster cell stage).map fun u =>
            ⟨t, purpose, c, cell.container, u.1, u.2⟩
      | _ => none

/-- Drops a request.  A task that supervises a container belongs to nobody who could drop it. -/
def dropRequest (w : World σ) (t : TaskId) : World σ :=
  match w.task? t with
  | some task => if task.isFinished || task.activity.supervised?.isSome then w else w.drop t
  | none => w

/-- What an action does.  One that is not possible does nothing. -/
def act (rules : Rules) (cluster : Cluster σ) (w : World σ) : Action σ → World σ
  | .step t => w.step rules cluster t
  | .request request => if request.isOffered then (w.addTask (.fresh request)).1 else w
  | .drop t => w.dropRequest t
  | .create identity => (w.create identity).toOption.getD w
  | .restore identity runId => (w.restore identity runId).toOption.getD w
  | .share identity none => (w.addCell (.create identity)).1
  | .share identity (some runId) => (w.addCell (.restore identity runId)).1
  | .cancel => w.cancel
  | .pass millis => { w with clock := w.clock + millis }
  | .shift state => { w with cluster := state }

/-- The step of dialogue in an action. -/
def dialogueStepOf? (rules : Rules) (cluster : Cluster σ) (w : World σ) :
    Action σ → Option DialogueStep
  | .step t => w.dialogueStep? rules cluster t
  | _ => none

/-- The world after a run. -/
def play (rules : Rules) (cluster : Cluster σ) (w : World σ) (actions : List (Action σ)) :
    World σ :=
  actions.foldl (act rules cluster) w

/-- What was said in a run, oldest first. -/
def history (rules : Rules) (cluster : Cluster σ) : World σ → List (Action σ) → List DialogueStep
  | _, [] => []
  | w, a :: rest =>
    (w.dialogueStepOf? rules cluster a).toList ++ history rules cluster (w.act rules cluster a) rest

/-- The containers that come into being in a run, as they are then, oldest first. -/
def newcomers (rules : Rules) (cluster : Cluster σ) : World σ → List (Action σ) → List Container
  | _, [] => []
  | w, a :: rest =>
    let w' := w.act rules cluster a
    (w'.cells.drop w.cells.length).map (·.container) ++ newcomers rules cluster w' rest

/-- What the tasks that are started in a run begin with, oldest first. -/
def starters (rules : Rules) (cluster : Cluster σ) : World σ → List (Action σ) → List Activity
  | _, [] => []
  | w, a :: rest =>
    let w' := w.act rules cluster a
    (w'.tasks.drop w.tasks.length).map (·.activity) ++ starters rules cluster w' rest

@[simp] theorem play_nil (rules : Rules) (cluster : Cluster σ) (w : World σ) :
    w.play rules cluster [] = w := rfl

/-- A run is continued from the world that it leads to. -/
theorem play_append (rules : Rules) (cluster : Cluster σ) (w : World σ)
    (first second : List (Action σ)) :
    w.play rules cluster (first ++ second) =
      (w.play rules cluster first).play rules cluster second := by
  simp [play]

end World

end Supervision

end JobSupervision
