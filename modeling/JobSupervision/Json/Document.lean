/-
# JSON documents

What a JSON text says before anyone asks for a particular kind of value.  A document keeps
the members of an object in the order of the text, doubled keys included, because whoever
reads a record wants to know about them.  A part of the text may be well formed and still
stand for no value: a string with half of a surrogate pair, a number beyond every floating
point number, a container nested too deeply.  Such a part is `unreadable`; it does no harm
where nobody looks at it.
-/
import JobSupervision.Json.Basic

namespace JobSupervision.Json

/-- The content of a JSON text. -/
inductive Doc where
  /-- The value `null`. -/
  | null
  /-- A truth value. -/
  | bool (value : Bool)
  /-- A number. -/
  | num (value : Number)
  /-- A text. -/
  | str (value : String)
  /-- A list. -/
  | arr (items : List Doc)
  /-- Members in the order of the text; a key that stands for no text is `none`. -/
  | obj (members : List (Option String × Doc))
  /-- Well formed text that stands for no value. -/
  | unreadable
deriving Repr, Inhabited

namespace Doc

mutual

/-- The value that a document stands for, if every part of it can be read. -/
def toJson? : Doc → Option Json
  | .null => some .null
  | .bool b => some (.bool b)
  | .num n => some (.num n)
  | .str s => some (.str s)
  | .arr items => (itemsToJson? items).map .arr
  | .obj members => (membersToJson? members).map fun ms => .obj (sortMembers ms)
  | .unreadable => none

/-- The values of some items, if all can be read. -/
def itemsToJson? : List Doc → Option (List Json)
  | [] => some []
  | d :: rest =>
    match toJson? d, itemsToJson? rest with
    | some j, some js => some (j :: js)
    | _, _ => none

/-- The values of some members, if all can be read. -/
def membersToJson? : List (Option String × Doc) → Option (List (String × Json))
  | [] => some []
  | (key, d) :: rest =>
    match key, toJson? d, membersToJson? rest with
    | some k, some j, some ms => some ((k, j) :: ms)
    | _, _, _ => none

end

/-- Whether every part of a document can be read. -/
def isReadable (d : Doc) : Bool := d.toJson?.isSome

end Doc

mutual

/-- A value as a document. -/
def toDoc : Json → Doc
  | .null => .null
  | .bool b => .bool b
  | .num n => .num n
  | .str s => .str s
  | .arr items => .arr (itemsToDoc items)
  | .obj members => .obj (membersToDoc members)

/-- Some items as documents. -/
def itemsToDoc : List Json → List Doc
  | [] => []
  | j :: rest => toDoc j :: itemsToDoc rest

/-- Some members as members of a document. -/
def membersToDoc : List (String × Json) → List (Option String × Doc)
  | [] => []
  | (k, j) :: rest => (some k, toDoc j) :: membersToDoc rest

end

end JobSupervision.Json
