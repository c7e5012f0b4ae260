/-
# Classpaths

Where a worker looks for the dependencies of its unit of work.  Scopes of entries form a
chain, each inside the next one; walking a chain yields the entries of the nearest scope
first.
-/
import JobSupervision.FileSystem

namespace JobSupervision

/-- A chain of scopes: the entries of the nearest one, then those of each scope around it. -/
structure ClasspathChain where
  /-- The entries of the nearest scope. -/
  entries : List Path
  /-- The entries of the scopes around it, from the inside out. -/
  outer : List (List Path)
deriving Repr

namespace ClasspathChain

/-- A chain with one scope that holds nothing. -/
def empty : ClasspathChain := ⟨[], []⟩

/-- The chain of some scopes, nearest first. -/
def ofScopes : List (List Path) → ClasspathChain
  | [] => empty
  | entries :: outer => ⟨entries, outer⟩

/-- Whether there is a scope around the nearest one. -/
def hasParent (c : ClasspathChain) : Bool := !c.outer.isEmpty

/-- All entries, nearest scope first. -/
def walk (c : ClasspathChain) : List Path := c.entries ++ c.outer.flatten

/-- The inspection text of a scope and the scopes around it. -/
def inspectScopes (entries : List Path) : List (List Path) → String
  | [] => inspectScope none
  | next :: outer => inspectScope (some (inspectScopes next outer))
where
  /-- The inspection text of one scope with the text of the scope around it. -/
  inspectScope (parent : Option String) : String :=
    Text.inspectRecord "ClasspathChain"
      [("entries", Text.inspectList (entries.map Path.inspect)),
        ("parent", Text.inspectOption parent)]

/-- The inspection text. -/
def inspect (c : ClasspathChain) : String := inspectScopes c.entries c.outer

end ClasspathChain

/-- The file that a classpath provides under a name: the first directory with a file of that
name in it, or the first other entry that ends in that name. -/
def findOnClasspath (fs : FileSystem) (classpath : List Path) (name : Path) : Option Path :=
  classpath.findSome? fun entry =>
    if fs.isDirectory entry then
      if fs.isFile (entry.join name) then some (entry.join name) else none
    else if entry.fileName? = some name.text then some entry
    else none

/-- The character between two entries of a joined classpath. -/
def classpathSeparator : Char := ':'

/-- The entries of a joined classpath. -/
def splitClasspath (joined : String) : List Path :=
  (Path.splitAt classpathSeparator joined.toList).map fun part => ⟨String.ofList part⟩

/-- A classpath as one text, unless an entry holds the separator. -/
def joinClasspath? (classpath : List Path) : Option String :=
  if classpath.any fun p => classpathSeparator ∈ p.text.toList then none
  else some (String.intercalate ":" (classpath.map Path.text))

end JobSupervision
