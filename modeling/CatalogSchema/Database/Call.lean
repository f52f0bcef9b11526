/-!
# Calls

What a session asks of the database and of the clock. Calls of one `Operation` are counted together
when a fault is planned for one of them.
-/

namespace CatalogSchema

inductive Call where
  | connect (uri : String)
  /-- Open a pool of connections; without an address the driver's defaults apply. -/
  | createPool (uri : Option String)
  | acquire
  /-- Hand a connection back after its work was done. -/
  | release
  /-- Hand a connection back after its work ended with a fault. -/
  | discard
  /-- Begin a read-only transaction that sees one state of the database throughout. -/
  | begin
  | commit
  | rollback
  /-- Run the introspection query. -/
  | fetch
  /-- Run the script that installs the triggers on schema changes. -/
  | installTriggers
  | ping
  | listen (channel : String)
  | unlisten (channel : String)
  | close
  | sleep (seconds : Rat)
  /-- Serve requests until told to stop. -/
  | serve
  deriving DecidableEq, Repr

inductive Operation where
  | connect
  | createPool
  | acquire
  | release
  | discard
  | begin
  | commit
  | rollback
  | fetch
  | execute
  | listen
  | unlisten
  | close
  | sleep
  | serve
  deriving DecidableEq, Repr

def Call.operation : Call → Operation
  | connect _ => .connect
  | createPool _ => .createPool
  | acquire => .acquire
  | release => .release
  | discard => .discard
  | begin => .begin
  | commit => .commit
  | rollback => .rollback
  | fetch => .fetch
  | installTriggers => .execute
  | ping => .execute
  | listen _ => .listen
  | unlisten _ => .unlisten
  | close => .close
  | sleep _ => .sleep
  | serve => .serve

end CatalogSchema
