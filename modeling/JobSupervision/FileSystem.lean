/-
# File systems

The files and directories that a worker and its launcher see, as a value.  A location is the
list of names that leads from the root to a file or directory.  A path is followed name by
name from the root or from the working directory, and everything it passes through must be a
directory; `..` leads to the directory above the one reached, so what a path means depends on
what exists.
-/
import JobSupervision.Path
import JobSupervision.Text.Utf8

namespace JobSupervision

/-- What stands at a location. -/
inductive Node where
  /-- A directory. -/
  | directory
  /-- A file with its bytes; only a runnable file can be started as a program. -/
  | file (content : List UInt8) (runnable : Bool)
deriving DecidableEq, Repr

/-- The names that lead from the root to a file or directory. -/
abbrev Location := List (List Char)

/-- Why a file operation fails. -/
inductive FileFault where
  /-- Nothing stands where the path leads. -/
  | missing
  /-- The path goes through a file as if it were a directory. -/
  | notDirectory
  /-- The path leads to a directory where a file is wanted. -/
  | isDirectory
  /-- The file is not one that can be started. -/
  | denied
  /-- A name is longer than names may be. -/
  | nameTooLong
  /-- The path holds the character that ends paths. -/
  | badName
deriving DecidableEq, Repr

/-- What a fault is. -/
def FileFault.reason : FileFault → String
  | .missing => "No such file or directory"
  | .notDirectory => "Not a directory"
  | .isDirectory => "Is a directory"
  | .denied => "Permission denied"
  | .nameTooLong => "File name too long"
  | .badName => "file name contained an unexpected NUL byte"

/-- The number of a fault; a path that cannot be given at all has none. -/
def FileFault.number? : FileFault → Option Nat
  | .missing => some 2
  | .notDirectory => some 20
  | .isDirectory => some 21
  | .denied => some 13
  | .nameTooLong => some 36
  | .badName => none

/-- The text of a fault. -/
def FileFault.message (f : FileFault) : String :=
  match f.number? with
  | some n => f.reason ++ " (os error " ++ toString n ++ ")"
  | none => f.reason

/-- Files and directories, and the directory that relative paths start from.  Of two entries
for one location the first one counts. -/
structure FileSystem where
  /-- The location of the working directory. -/
  workDir : Location
  /-- What stands at which location. -/
  entries : List (Location × Node)
deriving Repr

namespace FileSystem

/-- The working directory as a path. -/
def here (fs : FileSystem) : Path :=
  if fs.workDir.isEmpty then ⟨"/"⟩
  else ⟨String.ofList (fs.workDir.flatMap fun name => '/' :: name)⟩

/-- What stands at a location; the root is always a directory. -/
def node? (fs : FileSystem) (l : Location) : Option Node :=
  match l with
  | [] => some .directory
  | l => (fs.entries.find? (·.1 = l)).map (·.2)

/-- The longest name, in bytes. -/
def maxNameBytes : Nat := 255

/-- The longest path, in bytes. -/
def maxPathBytes : Nat := 4095

/-- Follows the parts of a path from a location. -/
def follow (fs : FileSystem) : Location → List (List Char) → Except FileFault Location
  | l, [] => .ok l
  | l, part :: parts =>
    match fs.node? l with
    | none => .error .missing
    | some (.file _ _) => .error .notDirectory
    | some .directory =>
      if part = [] ∨ part = ['.'] then follow fs l parts
      else if part = ['.', '.'] then follow fs l.dropLast parts
      else if maxNameBytes < (Text.Utf8.encode part).length then .error .nameTooLong
      else follow fs (l ++ [part]) parts

/-- The location a path leads to, which need not exist. -/
def locate (fs : FileSystem) (p : Path) : Except FileFault Location :=
  let cs := p.text.toList
  if '\x00' ∈ cs then .error .badName
  else if cs.isEmpty then .error .missing
  else if maxPathBytes < (Text.Utf8.encode cs).length then .error .nameTooLong
  else fs.follow (if p.isAbsolute then [] else fs.workDir) (Path.splitAt '/' cs)

/-- What a path leads to. -/
def lookup (fs : FileSystem) (p : Path) : Except FileFault Node := do
  let l ← fs.locate p
  match fs.node? l with
  | some n => .ok n
  | none => .error .missing

/-- Whether a path leads to a file. -/
def isFile (fs : FileSystem) (p : Path) : Bool :=
  match fs.lookup p with
  | .ok (.file _ _) => true
  | _ => false

/-- Whether a path leads to a directory. -/
def isDirectory (fs : FileSystem) (p : Path) : Bool :=
  match fs.lookup p with
  | .ok .directory => true
  | _ => false

/-- The bytes of a file. -/
def read (fs : FileSystem) (p : Path) : Except FileFault (List UInt8) := do
  match ← fs.lookup p with
  | .file content _ => .ok content
  | .directory => .error .isDirectory

/-- Removes what stands at a location. -/
def remove (fs : FileSystem) (l : Location) : FileSystem :=
  { fs with entries := fs.entries.filter fun e => e.1 ≠ l }

/-- Puts a node at a location, in place of what stood there. -/
def put (fs : FileSystem) (l : Location) (n : Node) : FileSystem :=
  { fs with entries := (l, n) :: (fs.remove l).entries }

/-- Writes a file, whose directory must exist.  A file that exists already is replaced and
stays as runnable as it was. -/
def write (fs : FileSystem) (p : Path) (content : List UInt8) : Except FileFault FileSystem := do
  let l ← fs.locate p
  match fs.node? l with
  | some .directory => .error .isDirectory
  | some (.file _ runnable) => .ok (fs.put l (.file content runnable))
  | none => .ok (fs.put l (.file content false))

/-- Moves a file to a path, in place of a file that stands there. -/
def rename (fs : FileSystem) (source target : Path) : Except FileFault FileSystem := do
  let l ← fs.locate source
  let m ← fs.locate target
  match fs.node? l, fs.node? m with
  | none, _ => .error .missing
  | some _, some .directory => .error .isDirectory
  | some n, _ => .ok ((fs.remove l).put m n)

/-- Makes a directory and every missing directory above it. -/
def makeDirectories (fs : FileSystem) (l : Location) : FileSystem :=
  (List.range l.length).foldl
    (fun fs n =>
      let d := l.take (n + 1)
      if fs.node? d = none then fs.put d .directory else fs)
    fs

/-- Removes a location and all below it. -/
def removeTree (fs : FileSystem) (l : Location) : FileSystem :=
  { fs with entries := fs.entries.filter fun e => !(l.isPrefixOf e.1) }

/-- The names in the directory at a location, sorted. -/
def names (fs : FileSystem) (l : Location) : List (List Char) :=
  let inside := fs.entries.filterMap fun e =>
    if e.1.dropLast = l then e.1.getLast? else none
  (inside.mergeSort fun a b => String.ofList a ≤ String.ofList b).eraseReps

/-- The names in the directory a path leads to, sorted. -/
def list (fs : FileSystem) (p : Path) : Except FileFault (List String) := do
  let l ← fs.locate p
  match fs.node? l with
  | none => .error .missing
  | some (.file _ _) => .error .notDirectory
  | some .directory => .ok ((fs.names l).map String.ofList)

/-- The location of a path made of names only, taken from a location. -/
def below (l : Location) (text : String) : Location :=
  l ++ (Path.splitAt '/' text.toList).filter (· ≠ [])

@[simp] theorem node?_root (fs : FileSystem) : fs.node? [] = some .directory := rfl

/-- What was put at a location is found there. -/
theorem node?_put (fs : FileSystem) (l : Location) (n : Node) (h : l ≠ []) :
    (fs.put l n).node? l = some n := by
  cases l with
  | nil => exact absurd rfl h
  | cons a l => simp [node?, put]

end FileSystem

end JobSupervision
