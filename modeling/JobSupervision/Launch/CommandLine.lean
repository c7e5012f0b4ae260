/-
# Command lines of workers

What the launching side writes on the command line of a worker, which reads it as
`WorkerArguments`.
-/
import JobSupervision.Classpath
import JobSupervision.HeapSize
import JobSupervision.Launch.Error

namespace JobSupervision

/-- What is handed to a worker on its command line. -/
structure WorkerCommand where
  /-- The file of the payload. -/
  payload : Path
  /-- The place for the record. -/
  result : Path
  /-- Where dependencies are looked for. -/
  classpath : List Path
  /-- The memory the worker starts with. -/
  heapInitial : Option HeapSize
  /-- The memory the worker may use. -/
  heapMax : Option HeapSize
  /-- Arguments that are handed through. -/
  extraFlags : List String

namespace WorkerCommand

/-- An option with the text of a memory size, if there is one. -/
def sizeOption (name : String) : Option HeapSize → List String
  | some size => [name, size.text]
  | none => []

/-- The arguments behind the name of the program.  A classpath that cannot be written as one
text is an error of the configuration. -/
def arguments (c : WorkerCommand) : Except LaunchError (List String) :=
  let files := ["--payload", c.payload.text, "--result", c.result.text]
  let rest := sizeOption "--heap-initial" c.heapInitial ++ sizeOption "--heap-max" c.heapMax ++
    if c.extraFlags.isEmpty then [] else "--" :: c.extraFlags
  if c.classpath.isEmpty then .ok (files ++ rest)
  else
    match joinClasspath? c.classpath with
    | some joined => .ok (files ++ ["--classpath", joined] ++ rest)
    | none =>
      .error (.configuration "classpath entry: path segment contains separator \x60:\x60")

end WorkerCommand

end JobSupervision
