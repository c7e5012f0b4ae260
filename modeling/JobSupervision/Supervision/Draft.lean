/-
# Drafts of a supervision

What a supervision is put together from.  A draft names its parts one by one; building it
checks that nothing is missing and gives the rules and the event bus.
-/
import JobSupervision.Supervision.World

namespace JobSupervision.Supervision

/-- A supervision that is being put together. -/
structure Draft where
  /-- The settings. -/
  settings : SupervisorSettings := .standard
  /-- How often and how fast recovery is tried. -/
  policy : RetryPolicy := .standard
  /-- Whether there is a cluster. -/
  hasCluster : Bool := false
  /-- Whether it is said how jobs are submitted. -/
  hasStrategy : Bool := false
  /-- Whether there is a launcher, with which jobs can be built and submitted. -/
  hasLauncher : Bool := false
  /-- Where events are published, if that is given. -/
  events : Option (EventBus ContainerEvent) := none

/-- What a draft lacks. -/
inductive DraftError where
  /-- There is no cluster. -/
  | clusterMissing
  /-- It is not said how jobs are submitted. -/
  | strategyMissing
  /-- A bus for nothing cannot be made. -/
  | noEventCapacity
deriving DecidableEq, Repr

/-- The text of an error. -/
def DraftError.message : DraftError → String
  | .clusterMissing => "cluster dependency missing"
  | .strategyMissing => "submit strategy dependency missing"
  | .noEventCapacity => "event capacity must be positive"

/-- What the building of a draft comes to. -/
inductive Draft.Built where
  /-- The rules and the event bus of the supervision. -/
  | ready (rules : Rules) (bus : EventBus ContainerEvent)
  /-- Something is missing. -/
  | lacking (error : DraftError)
  /-- The capacity asked for is more than any bus has. -/
  | excessive

namespace Draft

/-- Builds the supervision of a draft. -/
def build (d : Draft) : Built :=
  if !d.hasCluster then .lacking .clusterMissing
  else if !d.hasStrategy && !d.hasLauncher then .lacking .strategyMissing
  else
    match d.events with
    | some bus => .ready ⟨d.policy, d.settings⟩ bus
    | none =>
      if d.settings.eventCapacity = 0 then .lacking .noEventCapacity
      else
        match EventBus.create? d.settings.eventCapacity.toNat with
        | some bus => .ready ⟨d.policy, d.settings⟩ bus
        | none => .excessive

/-- The inspection text. -/
def inspect (d : Draft) : String :=
  Text.inspectRecord "ContainerRuntimeBuilder"
    [("config", d.settings.inspect), ("retry", d.policy.inspect),
      ("cluster_set", Text.inspectBool d.hasCluster),
      ("strategy_set", Text.inspectBool d.hasStrategy),
      ("launcher_set", Text.inspectBool d.hasLauncher),
      ("events_set", Text.inspectBool d.events.isSome)]

end Draft

end JobSupervision.Supervision
