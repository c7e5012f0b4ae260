/-
# Paths

A path is kept as it was written.  Two paths are the same when they have the same
components: doubled separators, a separator at the end and a `.` in the middle do not count,
while `..` does, because what it means depends on the directories that exist.
-/
import JobSupervision.Json.Decoder
import JobSupervision.Text.Inspect

namespace JobSupervision

/-- A path as it was written. -/
structure Path where
  /-- The text. -/
  text : String
deriving DecidableEq, Repr, Inhabited

namespace Path

/-- One step of a path. -/
inductive Component where
  /-- The root directory. -/
  | root
  /-- The directory a relative path starts from, where a path says so at its front. -/
  | current
  /-- The directory above. -/
  | parent
  /-- A name inside a directory. -/
  | name (text : List Char)
deriving DecidableEq, Repr

/-- A text cut at a separator.  There is always one part more than there are separators. -/
def splitAt (separator : Char) : List Char → List (List Char)
  | [] => [[]]
  | c :: cs =>
    match splitAt separator cs with
    | [] => [[c]]
    | part :: parts => if c = separator then [] :: part :: parts else (c :: part) :: parts

/-- The component that a part between separators stands for, if any. -/
def component? (part : List Char) : Option Component :=
  if part = [] ∨ part = ['.'] then none
  else if part = ['.', '.'] then some .parent
  else some (.name part)

/-- Whether a text starts at the root. -/
def startsAtRoot (cs : List Char) : Bool := cs.head? = some '/'

/-- Whether a path starts at the root. -/
def isAbsolute (p : Path) : Bool := startsAtRoot p.text.toList

/-- The components of a path. -/
def components (p : Path) : List Component :=
  let cs := p.text.toList
  let parts := splitAt '/' cs
  let steps := parts.filterMap component?
  if startsAtRoot cs then .root :: steps
  else if parts.head? = some ['.'] then .current :: steps
  else steps

/-- Whether two paths have the same components. -/
def same (p q : Path) : Bool := p.components = q.components

/-- The name that a path ends in. -/
def fileName? (p : Path) : Option String :=
  match p.components.getLast? with
  | some (.name n) => some (String.ofList n)
  | _ => none

/-- Whether a text ends in a separator. -/
def endsInSeparator (cs : List Char) : Bool := cs.getLast? = some '/'

/-- A path taken inside a directory; an absolute path is taken as it is. -/
def join (base p : Path) : Path :=
  if p.isAbsolute then p
  else if base.text.isEmpty || endsInSeparator base.text.toList then ⟨base.text ++ p.text⟩
  else ⟨base.text ++ "/" ++ p.text⟩

/-- A path with a text behind it. -/
def append (p : Path) (suffix : String) : Path := ⟨p.text ++ suffix⟩

/-- The text of one component. -/
def Component.chars : Component → List Char
  | .root => []
  | .current => ['.']
  | .parent => ['.', '.']
  | .name n => n

/-- A path made absolute by taking it inside a working directory, without looking at any
directory.  The empty path has no absolute form.  A separator at the end stays. -/
def absolute? (workDir p : Path) : Option Path :=
  let cs := p.text.toList
  if cs.isEmpty then none
  else
    let steps := p.components.filter fun c => c ≠ .root ∧ c ≠ .current
    let tail := List.intercalate ['/'] (steps.map Component.chars)
    let ending := if endsInSeparator cs && !tail.isEmpty then ['/'] else []
    if p.isAbsolute then
      let doubled := cs.take 2 = ['/', '/'] ∧ cs.take 3 ≠ ['/', '/', '/']
      some ⟨String.ofList ((if doubled then ['/', '/'] else ['/']) ++ tail ++ ending)⟩
    else if steps.isEmpty then
      some (if endsInSeparator cs then workDir.join ⟨""⟩ else workDir)
    else some (workDir.join ⟨String.ofList (tail ++ ending)⟩)

/-- Keeps the first of several paths that are the same, in order. -/
def dedup (paths : List Path) : List Path :=
  (paths.foldl (fun kept p => if kept.any (same p) then kept else p :: kept) []).reverse

/-- A path is encoded as its text. -/
def encode (p : Path) : Json := .str p.text

/-- The path that a document holds. -/
def decode? (d : Json.Doc) : Option Path := d.string?.map Path.mk

/-- The inspection text. -/
def inspect (p : Path) : String := Text.quote p.text

theorem same_refl (p : Path) : p.same p = true := by simp [same]

theorem same_symm {p q : Path} (h : p.same q = true) : q.same p = true := by
  simp only [same, decide_eq_true_eq] at *
  exact h.symm

theorem splitAt_eq_splitOn (separator : Char) (cs : List Char) :
    splitAt separator cs = cs.splitOn separator := by
  induction cs with
  | nil => rfl
  | cons c cs ih =>
    rw [splitAt, ih, List.splitOn_cons_eq_if_modifyHead]
    cases hcs : cs.splitOn separator with
    | nil => exact absurd hcs (List.splitOn_ne_nil separator cs)
    | cons part parts => simp

end Path

end JobSupervision
