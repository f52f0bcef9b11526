import CatalogSchema.Introspection
import CatalogSchema.Watch.Task

/-!
# The router

The router serves the schema that it last introspected, and its options. It introspects when it is
started and again for every announced change; an introspection that fails leaves it as it was. Its
lifespan opens the pool of connections, starts the router, creates a task for a watcher, serves, asks the task
to stop, and closes the pool without waiting for that. Tasks take their steps while the lifespan waits: here
they go on each time until they wait for the clock.
-/

namespace CatalogSchema

structure Router where
  uri : Option String
  options : Options
  /-- Whether the lifespan starts a watcher. -/
  watches : Bool
  settings : WatchSettings
  metadata : Option Metadata
  watcher : Option Watcher
  deriving DecidableEq, Repr

/-- What a request is answered with. -/
inductive Response where
  | document (j : Json)
  | refused (status : Nat) (detail : String)

namespace Router

def new (uri : Option String) (options : Options) (watches : Bool) : Router :=
  ⟨uri, options, watches, .default, none, none⟩

/-- The routes that are served, each with its methods. -/
def routes : List (String × List String) := [("/schema", ["GET"]), ("/configuration", ["GET"])]

def schema (r : Router) : Response :=
  match r.metadata with
  | some m => .document (m.encode .byLabel)
  | none => .refused 503 "Schema has not been introspected yet"

def configuration (r : Router) : Response := .document (r.options.encode .byLabel)

/-- Serve a schema from now on. -/
def adopt (r : Router) (m : Metadata) : Router := { r with metadata := some m }

/-- Introspect on a connection of the pool; the schema is derived after that was handed back. -/
def start (r : Router) : Session Router := do
  let s ← Session.pooled Snapshot.read
  let m ← Session.buildSchema s r.options
  return r.adopt m

/-- Introspect again after a change was announced. -/
def restart (r : Router) (channel payload : String) : Session Router := do
  Session.log
    [Log.Logger.router.info s!"Schema change notified on {channel}, introspecting again",
     Log.Logger.router.debug s!"Notification payload: {payload}"]
  r.start

/-- The tasks beside a lifespan. -/
structure Tasks where
  /-- Of the watcher of the router. -/
  watcher : Option WatchTask
  /-- Of the watcher that was replaced by it. -/
  replaced : Option WatchTask

namespace Tasks

/-- Ask the watcher to stop. -/
def cancel (ts : Tasks) : Tasks := { ts with watcher := ts.watcher.map .ask }

/-- Create the task of a watcher, in place of the one there was. -/
def watch (ts : Tasks) : Tasks := ⟨some .created, ts.watcher.map .ask⟩

/-- Let the tasks go on, in the order in which they were last turned to. -/
def settle (settings : WatchSettings) (ts : Tasks) : Session Tasks := do
  let replaced ← ts.replaced.mapM (WatchTask.settle settings)
  let watcher ← ts.watcher.mapM (WatchTask.settle settings)
  return ⟨watcher, replaced⟩

end Tasks

/-- The tasks that a lifespan finds. -/
def tasks (r : Router) : Tasks := ⟨r.watcher.map .running, none⟩

/-- The router with its watcher as the tasks leave it. -/
def keep (r : Router) (ts : Tasks) : Router := { r with watcher := ts.watcher.map WatchTask.watcher }

/-- What was seen of the watcher while serving and in the end. -/
structure Report where
  watching : Bool
  /-- Whether the watcher stopped because it was asked to, when there is one. -/
  cancelled : Option Bool
  deriving DecidableEq, Repr

/-- Ask the watcher to stop, and close the pool. -/
def close (r : Router) (ts : Tasks) : Session (Router × Except Fault Report) := do
  let watching := ts.watcher.any fun t => !t.watcher.isStopped
  let ending ← Session.outcome? .close
  let ts ← ts.cancel.settle r.settings
  match ending with
  | some f => return (r.keep ts, .error f)
  | none => return (r.keep ts, .ok ⟨watching, ts.watcher.map (·.watcher.isCancelled)⟩)

/-- Serve and close the pool. When serving itself ends with a fault the pool stays open and no task is asked
to stop. -/
def serve (r : Router) (ts : Tasks) : Session (Router × Except Fault Report) := do
  let ending ← Session.outcome? .serve
  let ts ← ts.settle r.settings
  match ending with
  | some f => return (r.keep ts, .error f)
  | none => r.close ts

/-- The whole lifespan: the router at its end and how it ended. The pool stays open when the start
fails. -/
def lifespan (r : Router) : Session (Router × Except Fault Report) := do
  match ← Session.outcome? (.createPool r.uri) with
  | some f => return (r, .error f)
  | none =>
    Session.log [Log.Logger.router.info "Starting SchemaRouter"]
    match ← Session.attempt r.start with
    | .error f => return (r, .error f)
    | .ok r => r.serve (if r.watches then r.tasks.watch else r.tasks)

end Router

end CatalogSchema
