/-!
# Pathnames

A pathname says how to get to a file or a folder: where to start, and the names to follow from there.
Empty names and single dots lead nowhere and are left out; a double dot leads to the folder above, and
only the file tree can say which one that is.
-/

namespace CatalogSchema

/-- Where a pathname starts. -/
inductive PathStart where
  | working
  | root
  /-- The root, written with two slashes. -/
  | doubleRoot
  deriving DecidableEq, Repr

structure Pathname where
  start : PathStart
  names : List String
  deriving DecidableEq, Repr

namespace Pathname

/-- The start is the working folder, unless there are slashes; two of them, and not more, are kept
apart from one. -/
def startOf : List Char → PathStart
  | '/' :: '/' :: '/' :: _ => .root
  | '/' :: '/' :: _ => .doubleRoot
  | '/' :: _ => .root
  | _ => .working

def ofText (text : String) : Pathname :=
  ⟨startOf text.toList, (text.splitOn "/").filter fun name => name ≠ "" ∧ name ≠ "."⟩

/-- Whether a text can only name a folder: its last name is empty or a dot. -/
def endsAsFolder (text : String) : Bool := (text.splitOn "/").getLast?.any (· ∈ ["", "."])

def render (p : Pathname) : String :=
  match p.start, p.names with
  | .working, [] => "."
  | .working, names => "/".intercalate names
  | .root, names => "/" ++ "/".intercalate names
  | .doubleRoot, names => "//" ++ "/".intercalate names

/-- A name in the folder. -/
def child (p : Pathname) (name : String) : Pathname := { p with names := p.names ++ [name] }

/-- The pathname without its last name. -/
def above (p : Pathname) : Pathname := { p with names := p.names.dropLast }

/-- How a name in a folder is written, given how the folder is written. -/
def renderChild (folder name : String) : String :=
  if folder = "." then name
  else if folder.toList.getLast? = some '/' then folder ++ name
  else folder ++ "/" ++ name

end Pathname

end CatalogSchema
