import CatalogSchema.CommandLine.Execution
import CatalogSchema.Log.Settings
import CatalogSchema.Service.Application

/-!
# The command line

Runs a command on the files of the context folder. The connection to the database belongs to the
surroundings: an update reads the answer of the introspection query from standard input, and a server
that is to be started is only announced.
-/

namespace CatalogSchema.CommandLine

/-- The context folder that a command works on. -/
def Command.folder? : Command → Option ContextFolder
  | .setUp folder | .update folder | .serve folder _ _ => some folder
  | .showVersion | .showHelp _ => none

/-- A place written in full. -/
def fullName (place : Place) : String := if place = .root then "/" else place.text

/-- Enter what is at a place; of a file that is not the configuration only the name counts. -/
def readPlace (files : FileTree) (place : Place) : IO FileTree := do
  let path := (← IO.currentDir) / fullName place
  if ← path.isDir then return files.put place .folder
  if ! (← path.pathExists) then return files
  if path.fileName = some Configuration.fileName then
    return files.put place (.file ⟨(← IO.FS.readBinFile path).toList⟩)
  return files.put place (.file .empty)

/-- The files that a command can see: what is on the way to the context folder and in it. -/
def readFiles (folder? : Option ContextFolder) : IO FileTree := do
  let names := (Pathname.ofText (toString (← IO.currentDir))).names
  let mut files : FileTree := { FileTree.empty with working := .ofNames names }
  for depth in [1:names.length + 1] do
    files := files.put (.ofNames (names.take depth)) .folder
  let some folder := folder? | return files
  let mut place := (files.origin folder.path.start).place
  for name in folder.path.names do
    place := if name = ".." then place.above else place.child name
    files ← readPlace files place
  if files.isFolder folder.path then
    for entry in ← ((← IO.currentDir) / fullName place).readDir do
      files ← readPlace files (place.child entry.fileName)
  return files

/-- Make the changes that a command asks for. -/
def writeFiles (before after : FileTree) : IO Unit := do
  for (place, entry) in after.entries.entries do
    if before.find? place ≠ some entry then
      match entry with
      | .folder => IO.FS.createDir (fullName place)
      | .file content => IO.FS.writeBinFile (fullName place) ⟨content.bytes.toArray⟩

/-- The rank of a level among the levels of records. -/
def levelRank : Log.Level → Nat
  | .debug => 0
  | .info => 1
  | .warning => 2
  | .error => 3

/-- Whether a record reaches the level that is set; an unknown level shows warnings. -/
def isShown (level : String) (r : Log.Record) : Bool :=
  let least := ([Log.Level.debug, .info, .warning, .error].find? (·.name = level)).getD .warning
  levelRank least ≤ levelRank r.level

def readEnvironment : IO Environment := do
  let names := [Configuration.uriVariable, "PGNDC_LOG_LEVEL", "PGNDC_ENV", "PGNDC_LOG_FILE"]
  let values ← names.mapM fun name => return (name, ← IO.getEnv name)
  return fun name => (values.lookup name).join

def runWords (words : List String) : IO UInt32 := do
  let env ← readEnvironment
  let working := toString (← IO.currentDir)
  let before ← readFiles (match Command.ofWords .empty (.working working) words with
    | .ok command => command.folder?
    | .error _ => none)
  let answer ← if words.head? = some CommandName.update.word then (← IO.getStdin).readToEnd else pure ""
  let started ← IO.monoMsNow
  let (result, journal) :=
    (Execution.ofWords before env working words).runOn (.planned (some answer) []) .empty
  let elapsed := s!"{(← IO.monoMsNow) - started}ms"
  let settings := Log.Settings.ofEnvironment env
  for record in journal.records do
    if isShown settings.level record then
      IO.eprintln s!"{record.logger} | {record.level.name} | {record.message.render elapsed}"
  match result with
  | .error f => do
    IO.eprintln f.message
    return 1
  | .ok e => do
    writeFiles before e.files
    if e.exit = 0 then IO.print e.output else IO.eprint e.output
    if let some f := e.escaped then IO.eprintln f.message
    if let some l := e.launch then
      IO.println s!"{Application.title} is to be served on {l.host}:{l.port} from {l.context.shown}"
    return e.exit.toUInt32

end CatalogSchema.CommandLine

def main (words : List String) : IO UInt32 := CatalogSchema.CommandLine.runWords words
