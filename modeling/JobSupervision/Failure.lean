/-
# Why a unit of work failed

A unit of work that runs to its end without a value reports a cause: what kind of failure it
is, a message, and the causes behind it, the nearest one first.
-/
import JobSupervision.Json.Decoder

namespace JobSupervision

/-- The cause of a failure. -/
structure FailureCause where
  /-- The kind of failure. -/
  kind : String
  /-- What happened. -/
  message : String
  /-- The causes behind it, the nearest one first. -/
  causes : List String
deriving DecidableEq, Repr

namespace FailureCause

/-- The kind of a failure that has no kind of its own. -/
def plainKind : String := "Error"

/-- The cause of a failure that was explained in steps: the first text says what happened at
the root, and each later one says what that means further out. -/
def ofContexts (kind : String) (contexts : List String) : FailureCause :=
  match contexts.reverse with
  | [] => ⟨kind, "", []⟩
  | message :: causes => ⟨kind, message, causes⟩

/-- The text of a cause. -/
def text (c : FailureCause) : String :=
  c.kind ++ ": " ++ c.message ++ String.join (c.causes.map ("; caused by: " ++ ·))

/-- A cause is encoded by its fields; without further causes the last field is left out. -/
def encode (c : FailureCause) : Json :=
  .obj ([("kind", .str c.kind), ("message", .str c.message)] ++
    if c.causes.isEmpty then [] else [("causes", Json.strings c.causes)])

/-- The cause that a document holds. -/
def decode? (d : Json.Doc) : Option FailureCause := do
  let fields ← d.fields? ["kind", "message", "causes"]
  let kind ← fields.required "kind" Json.Doc.string?
  let message ← fields.required "message" Json.Doc.string?
  let causes ← fields.defaulted "causes" [] (Json.Doc.list? Json.Doc.string?)
  return ⟨kind, message, causes⟩

end FailureCause

end JobSupervision
