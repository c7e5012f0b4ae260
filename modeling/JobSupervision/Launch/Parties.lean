/-
# The parties to a launch

The worker, its watcher and the holder of the handle move on their own, and their moves come in any
order (`LaunchMove`, `LaunchParties.after`).  Whoever stops a worker needs some time for it: from
when the watcher turned to a wish to cancel until the streams of the worker are at their end,
nothing is settled, but how the worker ends does not matter any more.

The holder of a launch on a machine does one thing after the other while the time goes on
(`Launched.hold`).
-/
import JobSupervision.Launch.Machine

namespace JobSupervision

/-- What a party to a launch does. -/
inductive LaunchMove where
  /-- The worker has ended by itself, and this can be seen. -/
  | ends (remains : WorkerRemains)
  /-- The watcher looks at the worker; if it has not ended and is to be stopped, the watcher stops
  it. -/
  | watches
  /-- The streams of the worker are at their end, and the watcher settles the outcome if the worker
  is over. -/
  | settles
  /-- The holder wants the worker to be stopped. -/
  | cancels
  /-- The holder looks whether there is nothing to wait for. -/
  | looks
  /-- The holder has waited, until the outcome was there or for as long as was allowed. -/
  | waits (limit : Duration)

/-- What a holder is told. -/
inductive HolderAnswer (α : Type) where
  /-- Whether there is nothing to wait for. -/
  | finished (isFinished : Bool)
  /-- An outcome. -/
  | outcome (outcome : LaunchOutcome α)

namespace HolderAnswer

variable {α : Type}

/-- The outcome of which a holder is told. -/
def outcome? : HolderAnswer α → Option (LaunchOutcome α)
  | .finished _ => none
  | .outcome o => some o

end HolderAnswer

namespace LaunchMove

/-- Whether a move is the holder's. -/
def isHolders : LaunchMove → Bool
  | .ends _ | .watches | .settles => false
  | .cancels | .looks | .waits _ => true

/-- What is left of the worker if it has ended. -/
def remains? : LaunchMove → Option WorkerRemains
  | .ends remains => some remains
  | _ => none

/-- How long the holder waits at most who comes for the outcome. -/
def limit? : LaunchMove → Option Duration
  | .waits limit => some limit
  | _ => none

/-- Whether the holder comes for the outcome. -/
def isWait : LaunchMove → Bool
  | .waits _ => true
  | _ => false

/-- What a holder is told as long as nothing is settled. -/
def putOff {α : Type} : LaunchMove → Option (HolderAnswer α)
  | .looks => some (.finished false)
  | .waits limit => some (.outcome (.error (.timedOut limit)))
  | _ => none

end LaunchMove

/-- The parties to a launch. -/
structure LaunchParties (α : Type) where
  /-- The handle, with what the worker and the watcher did about it. -/
  handle : LaunchHandle α := .fresh
  /-- Whether the watcher turned to stopping the worker. -/
  stopping : Bool := false

namespace LaunchParties

variable {α : Type}

/-- The parties when the worker was just started. -/
def fresh : LaunchParties α := {}

/-- What a holder is told. -/
def answer? (p : LaunchParties α) : LaunchMove → Option (HolderAnswer α)
  | .looks => some (.finished p.handle.isFinished)
  | .waits limit => some (.outcome (p.handle.takeWithin limit).1)
  | _ => none

/-- What a holder is told who waits for as long as it takes, once there is nothing to wait for. -/
def last? (p : LaunchParties α) : Option (LaunchOutcome α) := p.handle.take?.map (·.1)

section Moves

variable (conclude : WorkerRemains → LaunchOutcome α)

/-- The parties after a move. -/
def move (p : LaunchParties α) : LaunchMove → LaunchParties α
  | .ends remains =>
    if p.stopping then p else { p with handle := p.handle.finish (conclude remains) }
  | .watches =>
    if p.handle.cancelling && p.handle.ended.isNone then { p with stopping := true } else p
  | .settles =>
    if p.stopping || p.handle.ended.isSome then { p with handle := p.handle.watch } else p
  | .cancels => { p with handle := p.handle.cancel }
  | .looks => p
  | .waits limit => { p with handle := (p.handle.takeWithin limit).2 }

/-- The parties after some moves. -/
def after (p : LaunchParties α) (moves : List LaunchMove) : LaunchParties α :=
  moves.foldl (move conclude) p

/-- What the holder is told in the course of some moves. -/
def answers (p : LaunchParties α) : List LaunchMove → List (HolderAnswer α)
  | [] => []
  | m :: moves => (p.answer? m).toList ++ (p.move conclude m).answers moves

/-- The outcomes of which a holder is told who waits for as long as it takes after some moves. -/
def outcomes (p : LaunchParties α) (moves : List LaunchMove) : List (LaunchOutcome α) :=
  (p.answers conclude moves).filterMap HolderAnswer.outcome? ++
    (p.after conclude moves).last?.toList

@[simp] theorem after_nil (p : LaunchParties α) : p.after conclude [] = p := rfl

@[simp] theorem after_cons (p : LaunchParties α) (m : LaunchMove) (moves : List LaunchMove) :
    p.after conclude (m :: moves) = (p.move conclude m).after conclude moves := rfl

@[simp] theorem after_append (p : LaunchParties α) (early late : List LaunchMove) :
    p.after conclude (early ++ late) = (p.after conclude early).after conclude late :=
  List.foldl_append

theorem after_concat (p : LaunchParties α) (moves : List LaunchMove) (m : LaunchMove) :
    p.after conclude (moves ++ [m]) = (p.after conclude moves).move conclude m :=
  p.after_append conclude moves [m]

theorem answers_append (p : LaunchParties α) (early late : List LaunchMove) :
    p.answers conclude (early ++ late) =
      p.answers conclude early ++ (p.after conclude early).answers conclude late := by
  induction early generalizing p with
  | nil => rfl
  | cons m early ih => simp [answers, ih]

theorem outcomes_cons (p : LaunchParties α) (m : LaunchMove) (moves : List LaunchMove) :
    p.outcomes conclude (m :: moves) =
      ((p.answer? m).bind HolderAnswer.outcome?).toList ++
        (p.move conclude m).outcomes conclude moves := by
  simp only [outcomes, answers, List.filterMap_append, List.append_assoc, after_cons]
  cases p.answer? m with
  | none => rfl
  | some answer => cases answer <;> rfl

theorem outcomes_append (p : LaunchParties α) (early late : List LaunchMove) :
    p.outcomes conclude (early ++ late) =
      (p.answers conclude early).filterMap HolderAnswer.outcome? ++
        (p.after conclude early).outcomes conclude late := by
  simp [outcomes, answers_append]

end Moves

end LaunchParties

/-- What the holder of a launch on a machine does. -/
inductive HolderAction where
  /-- Lets some milliseconds go by. -/
  | rests (millis : Nat)
  /-- Wants the worker to be stopped. -/
  | cancels
  /-- Looks whether there is nothing to wait for. -/
  | looks
  /-- Waits for the outcome, for some milliseconds at most. -/
  | waits (millis : Nat)

/-- The moves of the holder in an action. -/
def HolderAction.moves : HolderAction → List LaunchMove
  | .rests _ => []
  | .cancels => [.cancels]
  | .looks => [.looks]
  | .waits millis => [.waits (.ofMillis millis)]

namespace Launched

variable {V : Type}

/-- An action of the holder: the time afterwards, what the holder is told, and the launch. -/
def act (l : Launched V) (now : Nat) :
    HolderAction → Option (Nat × Option (HolderAnswer V) × Launched V)
  | .rests millis => some (now + millis, none, l.passTo now (now + millis))
  | .cancels => some (now, none, l.cancel)
  | .looks => some (now, some (.finished l.handle.isFinished), l)
  | .waits millis =>
    (l.wait now (some millis)).map fun (time, outcome, l) => (time, some (.outcome outcome), l)

/-- Some actions of the holder, one after the other. -/
def hold (l : Launched V) (now : Nat) :
    List HolderAction → Option (Nat × List (HolderAnswer V) × Launched V)
  | [] => some (now, [], l)
  | d :: actions => do
    let (now, answer, l) ← l.act now d
    let (now, answers, l) ← l.hold now actions
    return (now, answer.toList ++ answers, l)

end Launched

end JobSupervision
