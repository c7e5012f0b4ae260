/-
# JSON values

A value of the data format that worker payloads, result records and job flows are written
in.  A number is an integer or a binary floating point number, and the two are never
confused: `1` and `1.0` are different values.  The members of an object are a list; the
objects that programs hand on as free data are sorted by key (`Json.Sorted`), while a
record of this library is encoded in the order of its fields.
-/
import JobSupervision.Decimal.Binary64

namespace JobSupervision

open Decimal (Binary64)

/-- A JSON number. -/
inductive Json.Number where
  /-- A number written without fraction and exponent. -/
  | int (value : Int)
  /-- Any other number. -/
  | float (value : Binary64)
deriving DecidableEq, Repr

/-- A JSON value. -/
inductive Json where
  /-- The value `null`. -/
  | null
  /-- A truth value. -/
  | bool (value : Bool)
  /-- A number. -/
  | num (value : Json.Number)
  /-- A text. -/
  | str (value : String)
  /-- A list of values. -/
  | arr (items : List Json)
  /-- Named values. -/
  | obj (members : List (String × Json))
deriving Repr, Inhabited

namespace Json

/-- An integer as a value. -/
def int (n : Int) : Json := .num (.int n)

/-- A natural number as a value. -/
def nat (n : Nat) : Json := .num (.int n)

/-- A value that may be missing; `null` stands for a missing one. -/
def option {α : Type} (encode : α → Json) : Option α → Json
  | none => .null
  | some a => encode a

/-- A list of texts as a value. -/
def strings (texts : List String) : Json := .arr (texts.map .str)

/-- Puts a member into sorted members, in place of one with the same key. -/
def insertMember {α : Type} (key : String) (value : α) : List (String × α) → List (String × α)
  | [] => [(key, value)]
  | (k, v) :: rest =>
    if key < k then (key, value) :: (k, v) :: rest
    else if key = k then (key, value) :: rest
    else (k, v) :: insertMember key value rest

/-- The members sorted by key; of two members with one key the later one stays. -/
def sortMembers {α : Type} (members : List (String × α)) : List (String × α) :=
  members.foldl (fun acc m => insertMember m.1 m.2 acc) []

mutual

/-- The value with the members of every object in it sorted by key. -/
def sorted : Json → Json
  | .null => .null
  | .bool b => .bool b
  | .num n => .num n
  | .str s => .str s
  | .arr items => .arr (sortedItems items)
  | .obj members => .obj (sortMembers (sortedMembers members))

/-- Every value of a list, sorted. -/
def sortedItems : List Json → List Json
  | [] => []
  | j :: rest => sorted j :: sortedItems rest

/-- Every value among some members, sorted; the members keep their order. -/
def sortedMembers : List (String × Json) → List (String × Json)
  | [] => []
  | (k, j) :: rest => (k, sorted j) :: sortedMembers rest

end

mutual

/-- Whether the members of every object in a value stand in strictly ascending key order. -/
def Sorted : Json → Prop
  | .arr items => SortedItems items
  | .obj members => SortedMembers members ∧ members.Pairwise (fun a b => a.1 < b.1)
  | _ => True

/-- Whether every value of a list is sorted. -/
def SortedItems : List Json → Prop
  | [] => True
  | j :: rest => Sorted j ∧ SortedItems rest

/-- Whether every value among some members is sorted. -/
def SortedMembers : List (String × Json) → Prop
  | [] => True
  | (_, j) :: rest => Sorted j ∧ SortedMembers rest

end

end Json

end JobSupervision
