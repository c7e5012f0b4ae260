/-
# Containers with a past

Before a container is shared, its owner may use it alone: one operation after the other, each
carried out as far as its questions are answered and dropped at the first one that is not.
What a container goes through is written down as a list of passages.  A passage reaches from
where an operation begins, or an answer is heard, to the next question or to the end of the
operation, which are the moments at which the container may be seen or left for good.
-/
import JobSupervision.Supervision.Run

namespace JobSupervision

/-- What the owner of a container does with it. -/
inductive OwnerAction where
  /-- Submits the job. -/
  | run
  /-- Asks for the status of the run. -/
  | poll
  /-- Makes a recovery attempt. -/
  | recover
  /-- Stops the run. -/
  | stop
  /-- Gives the job up for a reason. -/
  | fail (reason : String)

/-- Somebody who has an answer to every question. -/
abbrev Respondent := (query : Query) → query.Answer

/-- An action with the answers that are waited for, one for each question.  A question without an
answer is where the action is dropped. -/
structure Use where
  /-- What is done. -/
  action : OwnerAction
  /-- Who answers the questions, first question first. -/
  answers : List Respondent

/-- What moves a container. -/
inductive PassageCause where
  /-- The trigger of whoever works on it. -/
  | trigger (trigger : Trigger)
  /-- The job is given up for a reason. -/
  | verdict (reason : String)

/-- What a container goes through from one moment at which it may be seen to the next. -/
structure Passage where
  /-- The container before. -/
  before : Container
  /-- What moves it. -/
  cause : PassageCause
  /-- The container afterwards. -/
  after : Container
  /-- The events that are published. -/
  events : List EventPayload
  /-- The question that is open afterwards. -/
  query? : Option Query

namespace OwnerAction

/-- The operation that an action is. -/
def operation (c : Container) : OwnerAction → Container.Operation
  | .run => c.run
  | .poll => c.poll
  | .recover => c.recover
  | .stop => c.stop
  | .fail reason => .done (c.fail reason)

/-- What moves the container when an action begins.  An owner who recovers a container moves it as
a caller does who made no attempt before. -/
def cause : OwnerAction → PassageCause
  | .run => .trigger (.operation .run)
  | .poll => .trigger (.operation .poll)
  | .recover => .trigger (.operation (.attempt false))
  | .stop => .trigger (.operation .stop)
  | .fail reason => .verdict reason

end OwnerAction

/-- What a container goes through in a dialogue as far as its questions are answered. -/
def Dialogue.passages {α : Type} (before : Container) (cause : PassageCause) :
    Dialogue α → List Respondent → List Passage
  | .done r, _ => [⟨before, cause, r.container, r.events, none⟩]
  | .ask c events q _, [] => [⟨before, cause, c, events, some q⟩]
  | .ask c events q next, a :: rest =>
    ⟨before, cause, c, events, some q⟩ ::
      passages c (.trigger (.answer q (a q))) (next (a q)) rest

namespace Container

/-- What a container goes through when it is used once. -/
def use (c : Container) (u : Use) : List Passage :=
  (u.action.operation c).passages c u.action.cause u.answers

/-- The container after it went through some passages. -/
def through (c : Container) (record : List Passage) : Container :=
  record.foldl (fun _ p => p.after) c

/-- What a container goes through when it is used several times. -/
def useAll (c : Container) : List Use → List Passage
  | [] => []
  | u :: rest => c.use u ++ (c.through (c.use u)).useAll rest

end Container

/-- A container whose owner has used it. -/
structure Possession where
  /-- What the job is. -/
  identity : JobIdentity
  /-- The run that the container was restored with. -/
  restored : Option RunId
  /-- What the owner did with it. -/
  uses : List Use

namespace Possession

/-- The container as it came into being. -/
def first (p : Possession) : Container :=
  match p.restored with
  | none => .create p.identity
  | some r => .restore p.identity r

/-- What the container went through. -/
def record (p : Possession) : List Passage := p.first.useAll p.uses

/-- The container as it is now. -/
def container (p : Possession) : Container := p.first.through p.record

end Possession

namespace Supervision

/-- What a container goes through in a step of dialogue. -/
def DialogueStep.passage (s : DialogueStep) : Passage :=
  ⟨s.before, .trigger s.trigger, s.after, s.dialogue.events, s.query?⟩

/-- A world with some containers that nobody works on. -/
def World.holding {σ : Type} (cluster : σ) (bus : EventBus ContainerEvent)
    (containers : List Container) : World σ :=
  { World.empty cluster bus with cells := containers.map fun k => ⟨k, none, []⟩ }

end Supervision

namespace Container

@[simp] theorem through_nil (c : Container) : c.through [] = c := rfl

@[simp] theorem through_cons (c : Container) (p : Passage) (record : List Passage) :
    c.through (p :: record) = p.after.through record := rfl

/-- A container goes through one record after the other. -/
theorem through_append (c : Container) (first second : List Passage) :
    c.through (first ++ second) = (c.through first).through second := by
  simp [through]

end Container

end JobSupervision
