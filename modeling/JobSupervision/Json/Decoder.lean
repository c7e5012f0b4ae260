/-
# Decoding records

How the records of this library are read from documents.  A record is written as an object,
whose unknown members are skipped and whose known members may not be doubled, or as a list
of its fields in order.  A record with alternatives names the alternative in a member of
its own, the tag, or in the first item of the list.
-/
import JobSupervision.Json.Document

namespace JobSupervision.Json.Doc

/-- A text. -/
def string? : Doc → Option String
  | .str s => some s
  | _ => none

/-- An integer between two bounds; a floating point number is never one. -/
def int? (low high : Int) : Doc → Option Int
  | .num (.int n) => if low ≤ n ∧ n ≤ high then some n else none
  | _ => none

/-- A natural number of at most so many bits. -/
def nat? (bits : Nat) (d : Doc) : Option Nat := (d.int? 0 (Nat.pow 2 bits - 1 : Nat)).map Int.toNat

/-- A natural number of 16 bits. -/
def uint16? (d : Doc) : Option UInt16 := (d.nat? 16).map UInt16.ofNat

/-- A natural number of 32 bits. -/
def uint32? (d : Doc) : Option UInt32 := (d.nat? 32).map UInt32.ofNat

/-- A natural number of 64 bits. -/
def uint64? (d : Doc) : Option UInt64 := (d.nat? 64).map UInt64.ofNat

/-- A signed integer of 64 bits. -/
def int64? (d : Doc) : Option Int64 :=
  (d.int? (-0x8000000000000000) 0x7fffffffffffffff).map Int64.ofInt

/-- A signed integer of 32 bits. -/
def int32? (d : Doc) : Option Int32 := (d.int? (-0x80000000) 0x7fffffff).map Int32.ofInt

/-- A list. -/
def list? {α : Type} (item? : Doc → Option α) : Doc → Option (List α)
  | .arr items => items.mapM item?
  | _ => none

/-- A value that may be missing, written as `null` when it is. -/
def option? {α : Type} (value? : Doc → Option α) : Doc → Option (Option α)
  | .null => some none
  | d => (value? d).map some

/-- The fields found for a record: whether they came in order from a list, and the document
of each field that is present. -/
structure Fields where
  /-- Whether the record was written as a list. -/
  inOrder : Bool
  /-- The fields that are present, by name. -/
  present : List (String × Doc)

namespace Fields

/-- The document of a field. -/
def find? (fields : Fields) (name : String) : Option Doc :=
  (fields.present.find? (·.1 = name)).map (·.2)

/-- A field that must be present. -/
def required {α : Type} (fields : Fields) (name : String) (value? : Doc → Option α) : Option α :=
  (fields.find? name).bind value?

/-- A field for an optional value.  An object may leave it out; a list may not. -/
def optional {α : Type} (fields : Fields) (name : String) (value? : Doc → Option α) :
    Option (Option α) :=
  match fields.find? name with
  | some d => d.option? value?
  | none => if fields.inOrder then none else some none

/-- A field with a default. -/
def defaulted {α : Type} (fields : Fields) (name : String) (default : α) (value? : Doc → Option α) :
    Option α :=
  match fields.find? name with
  | some d => value? d
  | none => some default

end Fields

/-- The members of an object that belong to the named fields.  Every key must be readable and
no field may come twice. -/
def knownMembers (names : List String) : List (Option String × Doc) → Option (List (String × Doc))
  | [] => some []
  | (none, _) :: _ => none
  | (some key, d) :: rest =>
    match knownMembers names rest with
    | none => none
    | some known =>
      if key ∈ names then
        if known.any (·.1 = key) then none else some ((key, d) :: known)
      else some known

/-- The fields of a record, from an object or from a list in the order of the names. -/
def fields? (names : List String) : Doc → Option Fields
  | .arr items => if items.length ≤ names.length then some ⟨true, names.zip items⟩ else none
  | .obj members => (knownMembers names members).map (⟨false, ·⟩)
  | _ => none

/-- The tag among the members of an object, and the other members. -/
def splitTag (tag : String) :
    List (Option String × Doc) → Option (Option Doc × List (Option String × Doc))
  | [] => some (none, [])
  | (key, d) :: rest =>
    match splitTag tag rest with
    | none => none
    | some (found, others) =>
      if key = some tag then
        if found.isSome then none else some (some d, others)
      else some (found, (key, d) :: others)

/-- The alternative that a tagged record names, with the rest of the record as a document.
The whole record must be readable. -/
def tagged? (tag : String) (d : Doc) : Option (String × Doc) :=
  if d.isReadable then
    match d with
    | .obj members =>
      match splitTag tag members with
      | some (some (.str name), others) => some (name, .obj others)
      | _ => none
    | .arr (.str name :: items) => some (name, .arr items)
    | _ => none
  else none

/-- The name of an alternative that has no fields: a text, or an object with that one member
holding nothing.  Inside a tagged record an empty object holds nothing too. -/
def name? (insideTagged : Bool) : Doc → Option String
  | .str s => some s
  | .obj [(some key, .null)] => some key
  | .obj [(some key, .obj [])] => if insideTagged then some key else none
  | _ => none

end JobSupervision.Json.Doc
