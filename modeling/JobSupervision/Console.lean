/-
# Consoles

Where the lines that a worker prints go.  A labelled console writes a label in front of each
line and hands it to the console around it.
-/
import JobSupervision.Text.Inspect

namespace JobSupervision.Console

/-- A line with a label in front. -/
def labelled (label line : String) : String := "[" ++ label ++ "] " ++ line

/-- A line as it arrives behind some labelled consoles, the last of which gets it first. -/
def throughLabels (labels : List String) (line : String) : String := labels.foldr labelled line

/-- The inspection text of a labelled console. -/
def inspect (label : String) : String :=
  Text.inspectRecord "PrefixedConsole" [("prefix", Text.quote label)]

end JobSupervision.Console
