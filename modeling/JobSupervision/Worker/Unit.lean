/-
# Units of work

A kind of work turns parameters into an execution: the lines printed, the time spent, the files
left, and the end that is reported.  A registry holds the kinds that a worker knows, at most one of
each name.
-/
import JobSupervision.Classpath
import JobSupervision.Failure
import JobSupervision.HeapSize

namespace JobSupervision

/-- What a worker tells a unit of work about itself. -/
structure WorkerContext where
  /-- Where dependencies are looked for. -/
  classpath : List Path
  /-- The memory the worker started with. -/
  heapInitial : Option HeapSize := none
  /-- The memory the worker may use. -/
  heapMax : Option HeapSize := none
  /-- The arguments handed through. -/
  extraFlags : List String := []

/-- How the execution of a unit of work ends. -/
inductive UnitEnd where
  /-- It gives a value. -/
  | value (output : Json)
  /-- It fails. -/
  | failure (cause : FailureCause)
  /-- It gives a value that cannot be encoded. -/
  | unencodable
  /-- It ends the worker on the spot. -/
  | exits (code : Int)

/-- One execution of a unit of work. -/
structure UnitExecution where
  /-- The lines it prints. -/
  console : List String
  /-- How long it pauses, in milliseconds. -/
  pauseMs : Nat
  /-- How it ends. -/
  ending : UnitEnd

namespace UnitExecution

/-- An execution that prints some lines and ends with a value. -/
def gives (console : List String) (output : Json) : UnitExecution := ⟨console, 0, .value output⟩

/-- An execution that prints some lines and fails. -/
def fails (console : List String) (kind message : String) : UnitExecution :=
  ⟨console, 0, .failure ⟨kind, message, []⟩⟩

end UnitExecution

/-- A kind of work. -/
structure WorkKind where
  /-- Its name. -/
  name : String
  /-- The execution for some parameters, unless they are not parameters of this kind. -/
  execute? : Json → WorkerContext → FileSystem → Option UnitExecution
  /-- The files as the execution leaves them. -/
  leaves : Json → WorkerContext → FileSystem → FileSystem := fun _ _ fs => fs

/-- The kinds of work that a worker knows. -/
structure WorkRegistry where
  /-- The kinds, each name once. -/
  kinds : List WorkKind

namespace WorkRegistry

/-- A registry without any kind. -/
def empty : WorkRegistry := ⟨[]⟩

/-- Adds a kind, in place of one of the same name. -/
def register (r : WorkRegistry) (k : WorkKind) : WorkRegistry :=
  ⟨k :: r.kinds.filter (·.name ≠ k.name)⟩

/-- The kind of a name. -/
def find? (r : WorkRegistry) (name : String) : Option WorkKind := r.kinds.find? (·.name = name)

/-- Whether there is a kind of a name. -/
def contains (r : WorkRegistry) (name : String) : Bool := (r.find? name).isSome

/-- The names of the kinds, sorted. -/
def names (r : WorkRegistry) : List String := (r.kinds.map (·.name)).mergeSort (· ≤ ·)

/-- The inspection text. -/
def inspect (r : WorkRegistry) : String :=
  Text.inspectRecord "WorkRegistry" [("kinds", Text.inspectList (r.names.map Text.quote))]

/-- A kind that was just added is found. -/
theorem find?_register (r : WorkRegistry) (k : WorkKind) :
    (r.register k).find? k.name = some k := by
  simp [register, find?]

end WorkRegistry

end JobSupervision
