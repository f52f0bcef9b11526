import CatalogSchema.CommandLine.Words
import CatalogSchema.ContextFolder
import CatalogSchema.Text.Integer

/-!
# Commands

The three commands: set up an empty configuration, update its metadata from the database, and serve.
`Command.ofWords` reads a command from the words of the command line; a word or a value that does not
fit is a `UsageError`, and a value that cannot even be looked at is a fault.
-/

namespace CatalogSchema.CommandLine

def programName : String := "pgndc"

def programVersion : String := "0.1.0"

inductive CommandName where
  | setUp
  | update
  | serve
  deriving DecidableEq, Repr

namespace CommandName

def word : CommandName → String
  | setUp => "initialize"
  | update => "update"
  | serve => "serve"

def all : List CommandName := [setUp, update, serve]

def ofWord? (w : String) : Option CommandName := all.find? (·.word = w)

/-- The words of the commands that are close to a word. -/
def suggestions (w : String) : List String := Text.closest (all.map word) w

end CommandName

inductive Command where
  | showVersion
  /-- Show how the program, or one of its commands, is used. -/
  | showHelp (command : Option CommandName)
  | setUp (folder : ContextFolder)
  | update (folder : ContextFolder)
  | serve (folder : ContextFolder) (host : String) (port : Int)
  deriving DecidableEq, Repr

/-- A problem with the words of the program, or of one of its commands. -/
structure UsageError where
  command : Option CommandName
  problem : UsageProblem
  deriving DecidableEq, Repr

/-- How the program or one of its commands is used, in one line. -/
def usageLine : Option CommandName → String
  | none => s!"Usage: {programName} [OPTIONS] COMMAND [ARGS]..."
  | some c => s!"Usage: {programName} {c.word} [OPTIONS]"

def UsageError.render (e : UsageError) : String :=
  let path := match e.command with
    | none => programName
    | some c => programName ++ " " ++ c.word
  let usage := usageLine e.command ++ "\n" ++ s!"Try '{path} --help' for help.\n\n"
  (if e.problem.standsAlone then "" else usage) ++ s!"Error: {e.problem.message}\n"

/-- Why no command is executed. -/
inductive Refusal where
  | usage (e : UsageError)
  | fault (f : Fault)
  deriving DecidableEq, Repr

/-- The words of the program, or of one of its commands, are refused. -/
def UsageProblem.refusal (command : Option CommandName) (problem : UsageProblem) : Refusal :=
  .usage ⟨command, problem⟩

def helpFlag : String := "--help"

def versionFlag : String := "--version"

def contextOption : String := "--context-path"

def hostOption : String := "--host"

def portOption : String := "--port"

def defaultHost : String := "0.0.0.0"

def defaultPort : Int := 8000

/-- The options of a command, in the order in which it declares them. -/
def CommandName.options : CommandName → List String
  | setUp | update => [contextOption]
  | serve => [contextOption, hostOption, portOption]

/-- Check that a folder is no file; that it is not there yet is no problem. -/
def checkFolder (files : FileTree) (name : CommandName) (value : String) : Except Refusal Unit :=
  match FileTree.checkText value, files.lookup (.ofText value) with
  | .error .nullCharacter, _ => .error (.fault (PathProblem.fault value .nullCharacter))
  | .ok (), .ok (.file _) =>
    if Pathname.endsAsFolder value then .ok ()
    else
      let reason := s!"Directory {Text.quoted value} is a file."
      .error ((UsageProblem.invalidValue contextOption reason).refusal name)
  | _, _ => .ok ()

/-- Check the value of an option. -/
def checkValue (files : FileTree) (name : CommandName) (option value : String) :
    Except Refusal Unit :=
  if option = contextOption then checkFolder files name value
  else if option = portOption ∧ (Text.integer? value).isNone then
    let reason := s!"{Text.quoted value} is not a valid integer."
    .error ((UsageProblem.invalidValue option reason).refusal name)
  else .ok ()

namespace Command

/-- The values in the order in which they are checked, and then that nothing is left over. -/
def check (files : FileTree) (name : CommandName) (s : Split) : Except Refusal Unit := do
  for option in s.order name.options do
    match s.value? option with
    | some value => checkValue files name option value
    | none => pure ()
  if s.rest ≠ [] then .error ((UsageProblem.extraArguments s.rest).refusal name) else .ok ()

/-- The command with its options; `working` is the folder that counts when none is named. -/
def build (working : ContextFolder) (name : CommandName) (s : Split) : Command :=
  let folder := ((s.value? contextOption).map ContextFolder.ofText).getD working
  match name with
  | .setUp => setUp folder
  | .update => update folder
  | .serve =>
    serve folder ((s.value? hostOption).getD defaultHost)
      (((s.value? portOption).bind Text.integer?).getD defaultPort)

/-- A command from the words that follow its name. -/
def ofArguments (files : FileTree) (working : ContextFolder) (name : CommandName)
    (words : List String) : Except Refusal Command := do
  let s ← (Split.ofWords ⟨name.options, [helpFlag], true⟩ words).mapError (·.refusal name)
  if s.flags ≠ [] then return showHelp (some name)
  check files name s
  return build working name s

/-- The words of the program, up to the one that should name a command. -/
def split (words : List String) : Except Refusal Split :=
  (Split.ofWords ⟨[], [versionFlag, helpFlag], false⟩ words).mapError (·.refusal none)

/-- The command that a flag of the program stands for. -/
def ofFlag (flag : String) : Command := if flag = versionFlag then showVersion else showHelp none

/-- What to make of a word that names no command: after a double dash it may still be an option. -/
def ofUnknown (word : String) (arguments : List String) : Except Refusal Command := do
  match (← split (word :: arguments)).flags with
  | flag :: _ => return ofFlag flag
  | [] => throw ((UsageProblem.noSuchCommand word (CommandName.suggestions word)).refusal none)

def ofWords (files : FileTree) (working : ContextFolder) (words : List String) :
    Except Refusal Command := do
  let s ← split words
  match s.flags, s.rest with
  | flag :: _, _ => return ofFlag flag
  | [], [] => throw (UsageProblem.missingCommand.refusal none)
  | [], word :: arguments =>
    match CommandName.ofWord? word with
    | none => ofUnknown word arguments
    | some name => ofArguments files working name arguments

end Command

end CatalogSchema.CommandLine
