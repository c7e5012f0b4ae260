/-
# The files a worker looks at

A worker looks at its payload, at the entries of its classpath and what they may provide, at
the dependencies of its work, and at the place of its record.  Knowing what stands at these
paths is knowing all files that matter to it.
-/
import JobSupervision.Worker.Run

namespace JobSupervision.Worker

/-- The dependencies that a payload names. -/
def dependencies (payload : WorkPayload) : List Path :=
  match BuildManifest.decode? payload.params.toDoc with
  | some manifest => manifest.dependencies
  | none => []

/-- The paths at which a unit of work may look for its dependencies. -/
def searched (args : WorkerArguments) (payload : WorkPayload) : List Path :=
  let wanted := dependencies payload
  let entries := (context args payload).classpath
  wanted ++ entries ++ entries.flatMap fun entry => wanted.map entry.join

/-- The path that leads to the directory of a file. -/
def directoryOf (path : Path) : Path :=
  let front := (path.text.toList.reverse.dropWhile (· ≠ '/')).reverse
  ⟨if front.isEmpty then "." else String.ofList front⟩

/-- A file system with what stands at some paths, and the directories above. -/
def filesAt (workDir : Location) (nodes : List (Path × Node)) : FileSystem :=
  nodes.foldl (fun fs n =>
    let base := if n.1.isAbsolute then [] else workDir
    let place := n.1.components.foldl (fun l c =>
      match c with
      | .root | .current => l
      | .parent => l.dropLast
      | .name text => l ++ [text]) base
    match n.2 with
    | .directory => fs.makeDirectories place
    | file => (fs.makeDirectories place.dropLast).put place file)
    ((⟨workDir, []⟩ : FileSystem).makeDirectories workDir)

end JobSupervision.Worker
