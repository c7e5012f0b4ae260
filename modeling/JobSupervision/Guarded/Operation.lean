/-
# Operations behind a lock

A container is shared by many callers behind a lock.  A caller does one operation each time it has
the lock: it holds a dialogue and then either replies, or lets the lock go, waits, and comes back
for another operation.  Recovery is such a chain of operations: weighing whether another attempt is
due, waiting out the delay without the lock, and making the attempt.
-/
import JobSupervision.Container.Operations

namespace JobSupervision

/-- What a caller does while it has the lock of a container. -/
inductive GuardedOperation where
  /-- Submit the job. -/
  | run
  /-- Ask for the status of the run. -/
  | poll
  /-- Stop the run. -/
  | stop
  /-- Look at the container. -/
  | status
  /-- Look at the state of the container. -/
  | state
  /-- Weigh whether a recovery attempt is due, after this caller made one or not. -/
  | weigh (attempted : Bool)
  /-- Make a recovery attempt that was found due, after this caller made one or not. -/
  | attempt (attempted : Bool)
deriving DecidableEq, Repr

/-- What a call on a container gives. -/
inductive CallValue where
  /-- The container as it stands. -/
  | snapshot (snapshot : Snapshot)
  /-- The state of the container. -/
  | state (state : ContainerState)
deriving DecidableEq, Repr

/-- The reply to a call on a container. -/
abbrev CallReply := Except ContainerError CallValue

/-- What a caller does after it had the lock. -/
inductive Turn where
  /-- The call has ended. -/
  | reply (reply : CallReply)
  /-- The caller waits some milliseconds without the lock and comes back for an operation. -/
  | again (delayMs : Nat) (operation : GuardedOperation)

namespace GuardedOperation

/-- The first operation of a call that recovers a container. -/
def recover : GuardedOperation := .weigh false

/-- Whether a container still needs a caller's recovery.  A running container needs it only
as long as the caller made no attempt. -/
def needed (c : Container) (attempted : Bool) : Bool :=
  match c.state with
  | .recovering => true
  | .running => !attempted
  | _ => false

/-- The reply that shows the container. -/
def present (c : Container) : CallReply := .ok (.snapshot c.snapshot)

/-- The turn after an operation whose error, if any, ends the call. -/
def conclude (c : Container) : Except ContainerError ContainerState → Turn
  | .ok _ => .reply (present c)
  | .error e => .reply (.error e)

/-- The turn after an operation whose inconclusive error starts or goes on with recovery. -/
def concludeOrRecover (c : Container) : Except ContainerError ContainerState → Turn
  | .ok _ => .reply (present c)
  | .error e => if e.isTransient then .again 0 (.weigh true) else .reply (.error e)

/-- Why a container is given up. -/
def exhaustion (c : Container) : String :=
  "recovery gave up after " ++ toString c.recoveryAttempts.toNat ++ " attempts: " ++
    c.lastError.getD "no answer from cluster"

/-- Gives a container up. -/
def escalate (c : Container) : Dialogue Turn :=
  let failed := c.fail (exhaustion c)
  .done ⟨failed.container, failed.events,
    match failed.result with
    | .ok _ => .reply (.error (.recoveryExhausted c.jobId c.runId c.recoveryAttempts))
    | .error e => .reply (.error e)⟩

/-- Leaves the container as it is. -/
def leave (c : Container) (turn : Turn) : Dialogue Turn := .done ⟨c, [], turn⟩

/-- The dialogue of an operation with the container that the lock guards. -/
def hold (policy : RetryPolicy) (c : Container) : GuardedOperation → Dialogue Turn
  | .run => c.run.map conclude
  | .poll => c.poll.map concludeOrRecover
  | .stop => c.stop.map conclude
  | .status => leave c (.reply (present c))
  | .state => leave c (.reply (.ok (.state c.state)))
  | .weigh attempted =>
    if needed c attempted then
      match policy.decide c.recoveryAttempts with
      | .escalate => escalate c
      | .retry _ delay => leave c (.again delay (.attempt attempted))
    else leave c (.reply (present c))
  | .attempt attempted =>
    if needed c attempted then c.recover.map concludeOrRecover
    else leave c (.reply (present c))

/-- The inspection text of a container behind a lock, which is busy while someone has the
lock. -/
def inspectGuarded (c : Container) (policy : RetryPolicy) (busy : Bool) : String :=
  Text.inspectRecord "ContainerProxy"
    [("job_id", c.jobId.inspect), ("state", Text.quote (if busy then "busy" else c.state.name)),
      ("retry", policy.inspect)]

end GuardedOperation

end JobSupervision
