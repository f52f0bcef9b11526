/-!
# Log records

Steps report what they did as records, which are data: a level, the logger they go to, and a message.
The message of a timed operation leaves out how long it took until it is rendered.
-/

namespace CatalogSchema.Log

inductive Level where
  | debug
  | info
  | warning
  | error
  deriving DecidableEq, Repr

def Level.name : Level → String
  | debug => "DEBUG"
  | info => "INFO"
  | warning => "WARNING"
  | error => "ERROR"

/-- The loggers by what they report on. -/
inductive Logger where
  | snapshot
  | types
  | relations
  | constraints
  | aggregates
  | comparisons
  | schema
  | commandLine
  | router
  | watch
  deriving DecidableEq, Repr

def Logger.name : Logger → String
  | snapshot => "pgndc.introspection.introspection"
  | types => "pgndc.resolution.types"
  | relations => "pgndc.resolution.relations"
  | constraints => "pgndc.resolution.constraints"
  | aggregates => "pgndc.resolution.aggregates"
  | comparisons => "pgndc.resolution.comparisons"
  | schema => "pgndc.schema"
  | commandLine => "pgndc.__main__"
  | router => "pgndc.router.router"
  | watch => "pgndc.router.watch"

inductive Message where
  | text (s : String)
  /-- A timed operation ended well. -/
  | finished (operation : String)
  /-- A timed operation ended with a fault. -/
  | failed (operation cause : String)
  deriving DecidableEq, Repr

/-- The message as a line, `elapsed` being the time the operation took. -/
def Message.render (elapsed : String) : Message → String
  | text s => s
  | finished operation => operation ++ " finished in " ++ elapsed
  | failed operation cause => operation ++ " failed after " ++ elapsed ++ ": " ++ cause

structure Record where
  level : Level
  logger : String
  message : Message
  deriving DecidableEq, Repr

namespace Logger

def debug (l : Logger) (s : String) : Record := ⟨.debug, l.name, .text s⟩

def info (l : Logger) (s : String) : Record := ⟨.info, l.name, .text s⟩

def warning (l : Logger) (s : String) : Record := ⟨.warning, l.name, .text s⟩

def error (l : Logger) (s : String) : Record := ⟨.error, l.name, .text s⟩

end Logger

/-- The record of a timed operation; `cause` is the fault it ended with. -/
def timing (logger operation : String) : (cause : Option String) → Record
  | none => ⟨.debug, logger, .finished operation⟩
  | some cause => ⟨.error, logger, .failed operation cause⟩

/-- Numbers in a message: `[1, 2]`. -/
def bracketed (ns : List Int) : String := "[" ++ ", ".intercalate (ns.map toString) ++ "]"

end CatalogSchema.Log
