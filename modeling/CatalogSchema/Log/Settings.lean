import CatalogSchema.Environment
import CatalogSchema.Json.Basic
import CatalogSchema.Text.Uppercase

/-!
# Log settings

The document that sets up logging: the level, the layout of a record and an optional log file, all of
them taken from the environment.
-/

namespace CatalogSchema.Log

/-- The root of the logger names. -/
def rootName : String := "pgndc"

/-- The full name of a logger: under the root, and the program itself under its own name. -/
def qualifiedName (name : String) : String :=
  if name = "__main__" then rootName ++ ".cli"
  else if rootName.toList.isPrefixOf name.toList then name
  else rootName ++ "." ++ name

def dateFormat : String := "%Y-%m-%d %H:%M:%S"

def developmentLayout : String := "%(asctime)s | %(name)-28s | %(levelname)-8s | %(message)s"

def productionLayout : String :=
  "%(asctime)s | %(name)s | %(levelname)s | %(message)s | %(pathname)s:%(lineno)d"

def fileLayout : String :=
  "%(asctime)s | %(name)s | %(levelname)s | %(funcName)s:%(lineno)d | %(message)s"

/-- Libraries whose records share the console, each with its level. -/
def libraryLevels : List (String × String) := [("uvicorn", "INFO"), ("asyncpg", "WARNING")]

/-- The largest size of a log file. -/
def maxFileBytes : Int := 10 * 1024 * 1024

/-- How many old log files are kept. -/
def keptFiles : Int := 5

structure Settings where
  level : String
  layout : String
  /-- The log file, if records go to one as well. -/
  file : Option String
  deriving DecidableEq, Repr

namespace Settings

/-- The small letters of ASCII; no other character becomes a letter of a known kind. -/
def lower (s : String) : String := String.ofList (s.toList.map Char.toLower)

/-- The level by its name in capitals. -/
def levelOf (env : Environment) : String := Text.upper ((env "PGNDC_LOG_LEVEL").getD "INFO")

/-- The layout for the kind of environment; an unknown kind counts as development. -/
def layoutOf (env : Environment) : String :=
  if lower ((env "PGNDC_ENV").getD "development") = "production" then productionLayout
  else developmentLayout

def ofEnvironment (env : Environment) : Settings :=
  ⟨levelOf env, layoutOf env, env.get? "PGNDC_LOG_FILE"⟩

/-- The names of the places that the program's own records go to. -/
def handlers (s : Settings) : List String := if s.file.isSome then ["console", "file"] else ["console"]

def formatter (layout : String) : Json :=
  .obj [("format", .str layout), ("datefmt", .str dateFormat)]

def logger (level : String) (handlers : List String) : Json :=
  .obj [("level", .str level), ("handlers", .ofStrings handlers), ("propagate", .bool false)]

def consoleHandler (s : Settings) : Json :=
  .obj
    [("class", .str "logging.StreamHandler"), ("level", .str s.level),
     ("formatter", .str "standard"), ("stream", .str "stderr")]

def fileHandler (s : Settings) (file : String) : Json :=
  .obj
    [("class", .str "logging.handlers.RotatingFileHandler"), ("level", .str s.level),
     ("formatter", .str "file"), ("filename", .str file), ("maxBytes", .int maxFileBytes),
     ("backupCount", .int keptFiles)]

/-- The whole document. -/
def encode (s : Settings) : Json :=
  let fileFormatters := s.file.toList.map fun _ => ("file", formatter fileLayout)
  let fileHandlers := s.file.toList.map fun f => ("file", s.fileHandler f)
  .obj
    [("version", .int 1), ("disable_existing_loggers", .bool false),
     ("formatters", .obj (("standard", formatter s.layout) :: fileFormatters)),
     ("handlers", .obj (("console", s.consoleHandler) :: fileHandlers)),
     ("loggers", .obj ((rootName, logger s.level s.handlers) ::
       libraryLevels.map fun (name, level) => (name, logger level ["console"]))),
     ("root", .obj [("level", .str "WARNING"), ("handlers", .ofStrings ["console"])])]

end Settings

end CatalogSchema.Log
