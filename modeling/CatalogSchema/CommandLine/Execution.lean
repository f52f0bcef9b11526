import CatalogSchema.CommandLine.Command
import CatalogSchema.Introspection
import CatalogSchema.Text.Control

/-!
# Execution of commands

A command changes at most the configuration file of its context folder. `Execution.update` writes the
file only after the connection was closed without a fault, so that a fault before that leaves it as it was.
What a command prints is free of control sequences; that the terminal can show it is taken for granted.
-/

namespace CatalogSchema.CommandLine

/-- The server that is to be started. -/
structure Launch where
  context : ContextFolder
  host : String
  port : Int
  deriving DecidableEq, Repr

/-- How a command ended. -/
structure Execution where
  exit : Nat
  /-- What was printed. -/
  output : String
  files : FileTree
  /-- A fault that no command handles. -/
  escaped : Option Fault
  launch : Option Launch

namespace Execution

def done (files : FileTree) (output : String) : Execution :=
  ⟨0, Text.plain output, files, none, none⟩

def failed (files : FileTree) (reason : String) : Execution :=
  ⟨1, Text.plain s!"Error: {reason}\n", files, none, none⟩

def escape (files : FileTree) (f : Fault) : Execution := ⟨1, "", files, some f, none⟩

def refused (files : FileTree) : Refusal → Execution
  | .usage e => ⟨2, Text.plain e.render, files, none, none⟩
  | .fault f => escape files f

/-- Write the empty configuration into a folder that holds nothing. -/
def setUp (files : FileTree) (folder : ContextFolder) : Execution :=
  match files.makeFolders folder.path with
  | (files, some problem) => escape files (problem.fault folder.shown)
  | (files, none) =>
    if files.isOccupied folder.path then failed files "directory is not empty"
    else match folder.store files .empty with
      | (files, none) => done files s!"Wrote {folder.shownFile}\n"
      | (files, some f) => escape files f

/-- The configuration of a folder, its metadata refreshed from the database. -/
def refreshed (files : FileTree) (folder : ContextFolder) (env : Environment) :
    Session Configuration := do
  let c ← Session.conclude (folder.load files)
  let uri ← Session.conclude (c.address env)
  Session.connected uri c.introspect

/-- What an update reports. -/
def updateSummary (folder : ContextFolder) (m : Metadata) : String :=
  s!"Updated {folder.shownFile}: {m.tables.size} tables, {m.aggregates.size} aggregate types, " ++
    s!"{m.comparisons.size} comparison types\n"

/-- What an update ends as that met a fault and leaves the files. -/
def interrupted (files : FileTree) (f : Fault) : Session Execution := do
  if f.isExpected then
    Session.log [Log.Logger.commandLine.error s!"Introspection failed: {f.message}"]
    return failed files f.message
  else return escape files f

def update (files : FileTree) (folder : ContextFolder) (env : Environment) : Session Execution := do
  match folder.isSetUp files with
  | .error f => return escape files f
  | .ok false => return failed files s!"{Configuration.fileName} not found in {folder.shown}"
  | .ok true =>
    match ← Session.attempt (refreshed files folder env) with
    | .error f => interrupted files f
    | .ok c =>
      match folder.store files c with
      | (files, none) => return done files (updateSummary folder c.metadata)
      | (files, some f) => interrupted files f

def ofCommand (files : FileTree) (env : Environment) : Command → Session Execution
  | .showVersion => return done files s!"{programName}, version {programVersion}\n"
  | .showHelp command => return done files (usageLine command ++ "\n")
  | .setUp folder => return setUp files folder
  | .update folder => update files folder env
  | .serve folder host port => return { done files "" with launch := some ⟨folder, host, port⟩ }

/-- Read and execute a command line; `working` is how the working folder is written. -/
def ofWords (files : FileTree) (env : Environment) (working : String) (words : List String) :
    Session Execution :=
  match Command.ofWords files (.working working) words with
  | .error r => return refused files r
  | .ok command => ofCommand files env command

end Execution

end CatalogSchema.CommandLine
