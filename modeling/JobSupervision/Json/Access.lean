/-
# Looking into values

The parts of a value by what they should be: the member of a key, a text, a number, a list.
A member that is `null` counts as missing.
-/
import JobSupervision.Json.Basic

namespace JobSupervision.Json

/-- The member of a key, unless it is `null`. -/
def member? (j : Json) (key : String) : Option Json :=
  match j with
  | .obj members =>
    match members.lookup key with
    | some .null => none
    | r => r
  | _ => none

/-- A text. -/
def text? : Json → Option String
  | .str s => some s
  | _ => none

/-- An integer. -/
def integer? : Json → Option Int
  | .num (.int n) => some n
  | _ => none

/-- A natural number. -/
def natural? (j : Json) : Option Nat :=
  match j.integer? with
  | some (.ofNat n) => some n
  | _ => none

/-- The items of a list, each read in the same way. -/
def list? {α : Type} (item? : Json → Option α) : Json → Option (List α)
  | .arr items => items.mapM item?
  | _ => none

/-- Texts in a list. -/
def texts? : Json → Option (List String) := list? text?

/-- A member that must be there. -/
def required {α : Type} (j : Json) (key : String) (value? : Json → Option α) : Option α :=
  (j.member? key).bind value?

/-- A member that may be missing. -/
def optional {α : Type} (j : Json) (key : String) (value? : Json → Option α) : Option (Option α) :=
  match j.member? key with
  | some v => (value? v).map some
  | none => some none

/-- A member with a default. -/
def defaulted {α : Type} (j : Json) (key : String) (default : α) (value? : Json → Option α) :
    Option α :=
  match j.member? key with
  | some v => value? v
  | none => some default

/-- Whether a member is there and is not false. -/
def holds (j : Json) (key : String) : Bool :=
  match j.member? key with
  | none | some (.bool false) => false
  | some _ => true

/-- An object with further members behind its own. -/
def extend (j : Json) (more : List (String × Json)) : Json :=
  match j with
  | .obj members => .obj (members ++ more)
  | j => j

end JobSupervision.Json
