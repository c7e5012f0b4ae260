/-
# Settings of a launch

The description of a launch as a list of settings that are applied one after the other, and
how settings are written.
-/
import JobSupervision.Json.Access
import JobSupervision.Launch.Configuration

namespace JobSupervision

/-- One setting of a launch. -/
inductive LaunchSetting where
  /-- The memory at the start, as a text. -/
  | heapInitial (text : String)
  /-- The greatest memory, as a text. -/
  | heapMax (text : String)
  /-- The memory at the start. -/
  | heapInitialSize (size : HeapSize)
  /-- The greatest memory. -/
  | heapMaxSize (size : HeapSize)
  /-- Further classpath entries of the user. -/
  | entries (paths : List Path)
  /-- The entries of a chain of scopes. -/
  | chain (scopes : ClasspathChain)
  /-- The classpath entries of the launching process. -/
  | parent (paths : List Path)
  /-- The entries of the user go in front. -/
  | isolate
  /-- A flag for the worker. -/
  | flag (text : String)
  /-- The directory that the worker starts in. -/
  | workDir (path : Path)

/-- The paths of a list of texts. -/
def Path.ofValues? (j : Json) : Option (List Path) := j.texts?.map (·.map Path.mk)

/-- The chain of a list of scopes, nearest first. -/
def ClasspathChain.ofValues? (j : Json) : Option ClasspathChain :=
  (j.list? Path.ofValues?).map ClasspathChain.ofScopes

namespace LaunchSetting

variable {W : Type}

/-- Applies a setting.  A text that is no memory size is handed back. -/
def apply (d : LaunchDraft W) : LaunchSetting → Except String (LaunchDraft W)
  | .heapInitial text => sized text d.withHeapInitial
  | .heapMax text => sized text d.withHeapMax
  | .heapInitialSize size => .ok (d.withHeapInitial size)
  | .heapMaxSize size => .ok (d.withHeapMax size)
  | .entries paths => .ok (d.addEntries paths)
  | .chain scopes => .ok (d.addChain scopes)
  | .parent paths => .ok (d.withParentClasspath paths)
  | .isolate => .ok d.isolated
  | .flag text => .ok (d.withFlag text)
  | .workDir path => .ok (d.withWorkDir path)
where
  /-- Sets a memory size that is written as a text. -/
  sized (text : String) (set : HeapSize → LaunchDraft W) : Except String (LaunchDraft W) :=
    match HeapSize.parse? text with
    | some size => .ok (set size)
    | none => .error text

/-- Applies settings one after the other, up to the first one that is refused. -/
def applyAll (d : LaunchDraft W) (settings : List LaunchSetting) : Except String (LaunchDraft W) :=
  settings.foldlM apply d

/-- The setting that a record with one member describes. -/
def ofDescription? : Json → Option LaunchSetting
  | .obj [(key, value)] =>
    match key with
    | "heap_initial" => value.text?.map heapInitial
    | "heap_max" => value.text?.map heapMax
    | "heap_initial_bytes" => value.natural?.map fun n => .heapInitialSize ⟨.ofNat n⟩
    | "heap_max_mib" => value.natural?.map fun n => .heapMaxSize (.ofMebi n)
    | "entry" => value.text?.map fun text => .entries [⟨text⟩]
    | "jars" => (Path.ofValues? value).map entries
    | "chain" => (ClasspathChain.ofValues? value).map chain
    | "parent" => (Path.ofValues? value).map parent
    | "isolate" => some .isolate
    | "flag" => value.text?.map flag
    | "work_dir" => value.text?.map fun text => .workDir ⟨text⟩
    | _ => none
  | _ => none

end LaunchSetting

end JobSupervision
