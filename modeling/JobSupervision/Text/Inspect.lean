/-
# Inspection texts

Values are shown to a developer in one uniform way: a record by its name and its fields, a
wrapped value by the name of its wrapper, a list between brackets.  The pieces are texts
already; these functions only put them together.
-/
import JobSupervision.Text.Quoted

namespace JobSupervision.Text

/-- A record: its name, then each field with its value, between braces. -/
def inspectRecord (name : String) (fields : List (String × String)) : String :=
  if fields.isEmpty then name
  else
    name ++ " \x7b " ++ String.intercalate ", " (fields.map fun f => f.1 ++ ": " ++ f.2) ++ " \x7d"

/-- A wrapped value: the name of the wrapper, then the value in parentheses. -/
def inspectWrapped (name value : String) : String := name ++ "(" ++ value ++ ")"

/-- A list of values, between brackets. -/
def inspectList (items : List String) : String :=
  "[" ++ String.intercalate ", " items ++ "]"

/-- A value that may be missing. -/
def inspectOption (value : Option String) : String :=
  match value with
  | none => "None"
  | some text => inspectWrapped "Some" text

/-- A truth value. -/
def inspectBool (b : Bool) : String := if b then "true" else "false"

end JobSupervision.Text
