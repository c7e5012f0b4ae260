/-
# Execution results

What a worker that ran to its end hands back: the value of its unit of work or the cause of
its failure, with the console lines that were kept.
-/
import JobSupervision.Launch.Error

namespace JobSupervision

/-- The end of a unit of work. -/
inductive Outcome (α : Type) where
  /-- It gave a value. -/
  | value (value : α)
  /-- It failed. -/
  | failure (cause : FailureCause)
deriving DecidableEq, Repr

/-- The end of a unit of work and the console lines that were kept. -/
structure ExecutionResult (α : Type) where
  /-- How it ended. -/
  outcome : Outcome α
  /-- The console lines that were kept, oldest first. -/
  transcript : List String
deriving DecidableEq, Repr

/-- What a launch comes to. -/
abbrev LaunchOutcome (α : Type) := Except LaunchError (ExecutionResult α)

namespace ExecutionResult

variable {α : Type}

/-- A result with a value. -/
def success (value : α) (transcript : List String) : ExecutionResult α := ⟨.value value, transcript⟩

/-- A result with a failure. -/
def failure (cause : FailureCause) (transcript : List String) : ExecutionResult α :=
  ⟨.failure cause, transcript⟩

/-- The value, if there is one. -/
def value? (r : ExecutionResult α) : Option α :=
  match r.outcome with
  | .value v => some v
  | .failure _ => none

/-- The cause of the failure, if there is one. -/
def cause? (r : ExecutionResult α) : Option FailureCause :=
  match r.outcome with
  | .value _ => none
  | .failure c => some c

/-- Whether the unit of work gave a value. -/
def isSuccess (r : ExecutionResult α) : Bool := r.value?.isSome

/-- The value, or the failure as an error of the launch. -/
def intoValue (r : ExecutionResult α) : Except LaunchError α :=
  match r.outcome with
  | .value v => .ok v
  | .failure c => .error (.workUnit c r.transcript)

end ExecutionResult

end JobSupervision
