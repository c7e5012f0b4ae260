/-
# Launch configurations

The description of one launch: the unit of work, the memory bounds, the classpath and what
else is handed to the worker.  A draft collects the settings one by one; building it checks
that there is a unit of work and that the memory bounds are in order.
-/
import JobSupervision.Classpath
import JobSupervision.HeapSize
import JobSupervision.Launch.Error

namespace JobSupervision

/-- A launch that is being described. -/
structure LaunchDraft (W : Type) where
  /-- The unit of work. -/
  work : Option W := none
  /-- The memory the worker starts with. -/
  heapInitial : Option HeapSize := none
  /-- The memory the worker may use. -/
  heapMax : Option HeapSize := none
  /-- The classpath entries of the user, in the order they were added. -/
  userClasspath : List Path := []
  /-- The classpath entries of the launching process. -/
  parentClasspath : List Path := []
  /-- Whether the entries of the launching process go in front. -/
  inherits : Bool := true
  /-- Flags handed through to the worker. -/
  extraFlags : List String := []
  /-- The directory that the worker starts in. -/
  workDir : Option Path := none
  /-- Whether the console lines go to a place of their own. -/
  consoleSet : Bool := false

/-- The description of a launch. -/
structure LaunchConfiguration (W : Type) where
  /-- The unit of work. -/
  work : W
  /-- The memory the worker starts with. -/
  heapInitial : Option HeapSize
  /-- The memory the worker may use. -/
  heapMax : Option HeapSize
  /-- The classpath entries of the user, each once. -/
  userClasspath : List Path
  /-- The classpath entries of the launching process, each once. -/
  parentClasspath : List Path
  /-- Whether the entries of the launching process go in front. -/
  inherits : Bool
  /-- Flags handed through to the worker. -/
  extraFlags : List String
  /-- The directory that the worker starts in. -/
  workDir : Option Path

namespace LaunchDraft

variable {W : Type}

/-- Sets the unit of work. -/
def withWork (d : LaunchDraft W) (work : W) : LaunchDraft W := { d with work := some work }

/-- Sets the memory the worker starts with. -/
def withHeapInitial (d : LaunchDraft W) (size : HeapSize) : LaunchDraft W :=
  { d with heapInitial := some size }

/-- Sets the memory the worker may use. -/
def withHeapMax (d : LaunchDraft W) (size : HeapSize) : LaunchDraft W :=
  { d with heapMax := some size }

/-- Adds classpath entries of the user behind those there are. -/
def addEntries (d : LaunchDraft W) (entries : List Path) : LaunchDraft W :=
  { d with userClasspath := d.userClasspath ++ entries }

/-- Adds the entries of a chain, nearest scope first. -/
def addChain (d : LaunchDraft W) (chain : ClasspathChain) : LaunchDraft W := d.addEntries chain.walk

/-- Sets the classpath entries of the launching process, in place of those set before. -/
def withParentClasspath (d : LaunchDraft W) (entries : List Path) : LaunchDraft W :=
  { d with parentClasspath := entries }

/-- Puts the entries of the user in front of those of the launching process. -/
def isolated (d : LaunchDraft W) : LaunchDraft W := { d with inherits := false }

/-- Adds a flag for the worker. -/
def withFlag (d : LaunchDraft W) (flag : String) : LaunchDraft W :=
  { d with extraFlags := d.extraFlags ++ [flag] }

/-- Sets the directory that the worker starts in. -/
def withWorkDir (d : LaunchDraft W) (dir : Path) : LaunchDraft W := { d with workDir := some dir }


/-- The launch that a draft describes.  Without a unit of work, or with more memory at the
start than the worker may use, there is none. -/
def build (d : LaunchDraft W) : Except LaunchError (LaunchConfiguration W) :=
  match d.work with
  | none => .error (.configuration "work unit missing")
  | some work =>
    match d.heapInitial, d.heapMax with
    | some i, some m =>
      if m.bytes < i.bytes then
        .error (.configuration ("initial heap " ++ i.text ++ " exceeds max heap " ++ m.text))
      else .ok (finish work)
    | _, _ => .ok (finish work)
where
  /-- The configuration with a unit of work and each classpath entry once. -/
  finish (work : W) : LaunchConfiguration W :=
    ⟨work, d.heapInitial, d.heapMax, Path.dedup d.userClasspath, Path.dedup d.parentClasspath,
      d.inherits, d.extraFlags, d.workDir⟩

/-- The inspection text. -/
def inspect (d : LaunchDraft W) : String :=
  Text.inspectRecord "LaunchConfigurationBuilder"
    [("work_set", Text.inspectBool d.work.isSome),
      ("heap_initial", Text.inspectOption (d.heapInitial.map HeapSize.inspect)),
      ("heap_max", Text.inspectOption (d.heapMax.map HeapSize.inspect)),
      ("user_classpath", Text.inspectList (d.userClasspath.map Path.inspect)),
      ("parent_classpath", Text.inspectList (d.parentClasspath.map Path.inspect)),
      ("inherit_parent_classpath", Text.inspectBool d.inherits),
      ("console_set", Text.inspectBool d.consoleSet)]

end LaunchDraft

namespace LaunchConfiguration

variable {W : Type}

/-- The classpath that the worker will see.  The entries of the launching process come first
if they are inherited and last otherwise; of several entries that are the same path the first
one stays. -/
def resolvedClasspath (c : LaunchConfiguration W) : List Path :=
  Path.dedup
    (if c.inherits then c.parentClasspath ++ c.userClasspath
      else c.userClasspath ++ c.parentClasspath)

/-- The inspection text, with the name of the type of work. -/
def inspect (workType : String) (c : LaunchConfiguration W) : String :=
  Text.inspectRecord "LaunchConfiguration"
    [("work_type", Text.quote workType),
      ("heap_initial", Text.inspectOption (c.heapInitial.map HeapSize.inspect)),
      ("heap_max", Text.inspectOption (c.heapMax.map HeapSize.inspect)),
      ("user_classpath", Text.inspectList (c.userClasspath.map Path.inspect)),
      ("parent_classpath", Text.inspectList (c.parentClasspath.map Path.inspect)),
      ("inherit_parent_classpath", Text.inspectBool c.inherits),
      ("extra_flags", Text.inspectList (c.extraFlags.map Text.quote)),
      ("work_dir", Text.inspectOption (c.workDir.map Path.inspect))]

end LaunchConfiguration

end JobSupervision
