/-
# States of a container

The life of a container from its creation to one of three ends, the changes that are allowed
on the way, and the status that a cluster reports for a run.
-/
import JobSupervision.Json.Decoder

namespace JobSupervision

/-- The state of a container. -/
inductive ContainerState where
  /-- Nothing was submitted yet. -/
  | created
  /-- The job is being submitted. -/
  | submitting
  /-- The cluster accepted the job. -/
  | running
  /-- The cluster gave no clear answer about the run. -/
  | recovering
  /-- The run ended well. -/
  | succeeded
  /-- The run, or the submission, failed. -/
  | failed
  /-- The run was stopped. -/
  | killed
deriving DecidableEq, Repr

namespace ContainerState

/-- All states in order. -/
def all : List ContainerState :=
  [.created, .submitting, .running, .recovering, .succeeded, .failed, .killed]

/-- The name of a state. -/
def name : ContainerState → String
  | .created => "created"
  | .submitting => "submitting"
  | .running => "running"
  | .recovering => "recovering"
  | .succeeded => "succeeded"
  | .failed => "failed"
  | .killed => "killed"

/-- The name of a state in an inspection text. -/
def inspect : ContainerState → String
  | .created => "Created"
  | .submitting => "Submitting"
  | .running => "Running"
  | .recovering => "Recovering"
  | .succeeded => "Succeeded"
  | .failed => "Failed"
  | .killed => "Killed"

/-- Whether a state is an end. -/
def isTerminal : ContainerState → Bool
  | .succeeded | .failed | .killed => true
  | _ => false

/-- Whether a state may change to another one. -/
def canBecome : ContainerState → ContainerState → Bool
  | .created, .submitting => true
  | .submitting, .running | .submitting, .failed => true
  | .running, .succeeded | .running, .failed | .running, .killed | .running, .recovering => true
  | .recovering, .running | .recovering, .succeeded | .recovering, .failed
  | .recovering, .killed => true
  | _, _ => false

/-- The states that a state may change to, in order. -/
def successors (s : ContainerState) : List ContainerState := all.filter s.canBecome

/-- The state of a name. -/
def ofName? (name : String) : Option ContainerState := all.find? (·.name = name)

/-- A state is encoded as its name. -/
def encode (s : ContainerState) : Json := .str s.name

/-- The state that a document holds; `insideTagged` tells whether the document is part of a
tagged record. -/
def decode? (insideTagged : Bool) (d : Json.Doc) : Option ContainerState :=
  (d.name? insideTagged).bind ofName?

/-- A name names one state. -/
theorem ofName?_name (s : ContainerState) : ofName? s.name = some s := by cases s <;> decide

/-- Nothing follows an end. -/
theorem canBecome_of_isTerminal {s t : ContainerState} (h : s.isTerminal = true) :
    s.canBecome t = false := by
  cases s <;> first | rfl | cases h

end ContainerState

/-- The status of a run as a cluster reports it. -/
inductive RemoteStatus where
  /-- The run goes on. -/
  | running
  /-- The run ended well. -/
  | succeeded
  /-- The run failed. -/
  | failed
  /-- The run was stopped. -/
  | killed
  /-- The cluster does not know the run. -/
  | unknown
deriving DecidableEq, Repr

namespace RemoteStatus

/-- All statuses in order. -/
def all : List RemoteStatus := [.running, .succeeded, .failed, .killed, .unknown]

/-- The name of a status. -/
def name : RemoteStatus → String
  | .running => "running"
  | .succeeded => "succeeded"
  | .failed => "failed"
  | .killed => "killed"
  | .unknown => "unknown"

/-- The status of a name. -/
def ofName? (name : String) : Option RemoteStatus := all.find? (·.name = name)

/-- A status is encoded as its name. -/
def encode (s : RemoteStatus) : Json := .str s.name

/-- The status that a document holds. -/
def decode? (d : Json.Doc) : Option RemoteStatus := (d.name? false).bind ofName?

end RemoteStatus

end JobSupervision
