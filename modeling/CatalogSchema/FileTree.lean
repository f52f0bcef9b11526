import CatalogSchema.Database.Fault
import CatalogSchema.OrderedMap
import CatalogSchema.Pathname
import CatalogSchema.Place
import CatalogSchema.Text.Encoding

/-!
# File trees

A tree of folders and files below one root, as a process sees it that has a working folder and keeps texts
in one encoding. `FileTree.resolve` follows a pathname to an entry: all names but the last lead through
folders, and a double dot goes up by one. A file that is to hold another text is emptied before the text is
encoded. The medium does not fail: there is room for what is written, and nothing in the tree is locked.
-/

namespace CatalogSchema

inductive FileEntry where
  | folder
  | file (content : FileContent)
  deriving DecidableEq, Repr

/-- Why a pathname cannot be used. -/
inductive PathProblem where
  | missing
  /-- What should be a folder is none. -/
  | notFolder
  | isFolder
  | alreadyExists
  /-- A name, or the pathname as a whole, is too long. -/
  | tooLong
  /-- No pathname can hold the null character. -/
  | nullCharacter
  /-- Too many folders are missing. -/
  | tooDeep
  deriving DecidableEq, Repr

/-- The fault with a pathname that is written as `shown`. -/
def PathProblem.fault (shown : String) : PathProblem → Fault
  | missing => .raised .missing ("[Errno 2] No such file or directory: " ++ Text.quoted shown)
  | notFolder => .raised .notFolder ("[Errno 20] Not a directory: " ++ Text.quoted shown)
  | isFolder => .raised .isFolder ("[Errno 21] Is a directory: " ++ Text.quoted shown)
  | alreadyExists => .raised .alreadyExists ("[Errno 17] File exists: " ++ Text.quoted shown)
  | tooLong => .raised .system ("[Errno 36] File name too long: " ++ Text.quoted shown)
  | nullCharacter => .raised .value "embedded null byte"
  | tooDeep => .raised .nesting "too many folders are missing"

/-- Why a text cannot be read from a file or written into it. -/
inductive FileProblem where
  | path (problem : PathProblem)
  /-- The encoding fails, with a message. -/
  | coding (message : String)
  deriving DecidableEq, Repr

/-- The fault with a file whose pathname is written as `shown`. -/
def FileProblem.fault (shown : String) : FileProblem → Fault
  | path problem => problem.fault shown
  | coding message => .raised .value message

/-- An entry and where it is. -/
structure Found where
  place : Place
  entry : FileEntry
  deriving DecidableEq, Repr

structure FileTree where
  entries : OrderedMap Place FileEntry
  working : Place
  /-- How texts stand in the files. -/
  encoding : Encoding

namespace FileTree

/-- The tree that holds nothing; one works at its root, in UTF-8. -/
def empty : FileTree := ⟨.empty, .root, .utf8⟩

def find? (t : FileTree) (place : Place) : Option FileEntry :=
  if place = .root then some .folder else t.entries.find? place

def put (t : FileTree) (place : Place) (e : FileEntry) : FileTree :=
  { t with entries := t.entries.insert place e }

theorem find?_put {t : FileTree} {place : Place} {e : FileEntry} (h : place ≠ .root) (q : Place) :
    (t.put place e).find? q = if place = q then some e else t.find? q := by
  by_cases hq : q = .root
  · simp [find?, hq, h]
  · simp [find?, put, hq, OrderedMap.find?_insert]

/-! ## Pathnames -/

/-- The most bytes of a name. -/
def maxNameBytes : Nat := 255

/-- The most bytes of a pathname. -/
def maxPathBytes : Nat := 4095

/-- The folder in which a pathname starts. -/
def origin (t : FileTree) (start : PathStart) : Found :=
  match start with
  | .working => ⟨t.working, .folder⟩
  | .root | .doubleRoot => ⟨.root, .folder⟩

/-- Follow one name from an entry. -/
def step (t : FileTree) (f : Found) (name : String) : Except PathProblem Found :=
  match f.entry with
  | .file _ => .error .notFolder
  | .folder =>
    if name = ".." then .ok ⟨f.place.above, .folder⟩
    else if maxNameBytes < name.utf8ByteSize then .error .tooLong
    else match t.find? (f.place.child name) with
      | some e => .ok ⟨f.place.child name, e⟩
      | none => .error .missing

/-- Whether a pathname can be used at all, `text` being how it is written. -/
def checkText (text : String) : Except PathProblem Unit :=
  if '\x00' ∈ text.toList then .error .nullCharacter
  else if maxPathBytes < text.utf8ByteSize then .error .tooLong
  else .ok ()

/-- The entry that a pathname leads to. -/
def resolve (t : FileTree) (p : Pathname) : Except PathProblem Found := do
  checkText p.render
  p.names.foldlM t.step (t.origin p.start)

/-- The place that a pathname leads to and, if there is one, the entry in it; the folder of the place
exists. -/
def resolveNew (t : FileTree) (p : Pathname) : Except PathProblem (Place × Option FileEntry) := do
  checkText p.render
  let folder ← p.above.names.foldlM t.step (t.origin p.start)
  match p.names.getLast? with
  | none => .ok (folder.place, some folder.entry)
  | some name =>
    match t.step folder name with
    | .ok f => .ok (f.place, some f.entry)
    | .error .missing => .ok (folder.place.child name, none)
    | .error problem => .error problem

def lookup (t : FileTree) (p : Pathname) : Except PathProblem FileEntry := (t.resolve p).map (·.entry)

def isFolder (t : FileTree) (p : Pathname) : Bool :=
  match t.lookup p with
  | .ok .folder => true
  | _ => false

/-- Whether a pathname leads to an entry; that it is too long is a problem, not an answer. -/
def isThere (t : FileTree) (p : Pathname) : Except PathProblem Bool :=
  match t.resolve p with
  | .ok _ => .ok true
  | .error .tooLong => .error .tooLong
  | .error _ => .ok false

/-- Whether a folder holds anything. -/
def isOccupied (t : FileTree) (p : Pathname) : Bool :=
  match t.resolve p with
  | .ok f => t.entries.keys.any fun q => q ≠ .root ∧ q.above = f.place
  | .error _ => false

/-! ## Changes -/

/-- Make one folder in a folder that exists. -/
def makeFolder (t : FileTree) (p : Pathname) : Except PathProblem FileTree := do
  match ← t.resolveNew p with
  | (_, some _) => .error .alreadyExists
  | (place, none) => .ok (t.put place .folder)

/-- The most folders that are made at once. -/
def maxMissing : Nat := 984

/-- Make a folder by its names in reverse, and first, when they are missing, the folders above it, `left`
folders at most. What was made stays, also when a problem ends it; that a folder exists already is none. -/
def makeFoldersFrom (t : FileTree) (start : PathStart) :
    (left : Nat) → List String → FileTree × Option PathProblem
  | 0, _ => (t, some .tooDeep)
  | _, [] => (t, none)
  | left + 1, name :: above =>
    let p : Pathname := ⟨start, (name :: above).reverse⟩
    let tolerate (t : FileTree) (problem : PathProblem) : FileTree × Option PathProblem :=
      (t, if t.isFolder p then none else some problem)
    match t.makeFolder p with
    | .ok t => (t, none)
    | .error .missing =>
      match makeFoldersFrom t start left above with
      | (t, some problem) => (t, some problem)
      | (t, none) =>
        match t.makeFolder p with
        | .ok t => (t, none)
        | .error problem => tolerate t problem
    | .error problem => tolerate t problem

/-- Make a folder and all folders above it. -/
def makeFolders (t : FileTree) (p : Pathname) : FileTree × Option PathProblem :=
  t.makeFoldersFrom p.start maxMissing p.names.reverse

/-- The place of a file that can be written: it exists, or the folder for it does. -/
def place (t : FileTree) (p : Pathname) : Except PathProblem Place := do
  match ← t.resolveNew p with
  | (_, some .folder) => .error .isFolder
  | (place, _) => .ok place

def write (t : FileTree) (p : Pathname) (content : FileContent) : Except PathProblem FileTree :=
  return t.put (← t.place p) (.file content)

/-- Write a text into a file. The file is empty when the text turns out to have no encoding. -/
def writeText (t : FileTree) (p : Pathname) (text : String) : FileTree × Option FileProblem :=
  match t.place p with
  | .error problem => (t, some (.path problem))
  | .ok place =>
    match t.encoding.encode text with
    | .ok content => (t.put place (.file content), none)
    | .error message => (t.put place (.file .empty), some (.coding message))

/-- What a file holds. -/
def content (t : FileTree) (p : Pathname) : Except PathProblem FileContent := do
  match ← t.lookup p with
  | .file content => .ok content
  | .folder => .error .isFolder

/-- The text of a file. -/
def read (t : FileTree) (p : Pathname) : Except FileProblem String := do
  let content ← (t.content p).mapError .path
  (t.encoding.decode content).mapError .coding

/-- What is below the working folder, written from there and in ascending order. -/
def listing (t : FileTree) : List String := sortOn id (t.entries.keys.filterMap t.working.below?)

end FileTree

end CatalogSchema
