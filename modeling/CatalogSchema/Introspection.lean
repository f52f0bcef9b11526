import CatalogSchema.Database.Session
import CatalogSchema.Schema.Resolution

/-!
# Introspection

Reading a snapshot from the database, and refreshing the metadata of a configuration from it. The
query is answered inside one transaction; its answer is looked at only after that was committed.
-/

namespace CatalogSchema

open Session (log transaction timed conclude)

namespace Snapshot

/-- The snapshot in an answer of the query. -/
def ofAnswer (answer : Option String) : Except Fault Snapshot :=
  match answer.filter (· ≠ "") with
  | none => .error (.raised .value "No introspection data found.")
  | some text => (parse text).orFault modelName

/-- How much a snapshot holds. -/
def readRecord (s : Snapshot) : Log.Record :=
  Log.Logger.snapshot.debug <|
    s!"Read catalog snapshot: {s.rows.classes.length} relations, {s.rows.types.length} types, " ++
      s!"{s.rows.operators.length} operators, {s.rows.procs.length} procedures"

def read : Session Snapshot := timed Log.Logger.snapshot.name "catalog introspection" do
  let answer ← transaction Session.fetch
  let s ← conclude (ofAnswer answer)
  log [s.readRecord]
  return s

end Snapshot

/-- Derive the schema of a snapshot and log what was kept and left out. -/
def Session.buildSchema (s : Snapshot) (options : Options) : Session Metadata := do
  let r := SchemaResolution.ofSnapshot s options
  log r.records
  return r.metadata

/-- The configuration with the metadata of the database as it is now. -/
def Configuration.introspect (c : Configuration) : Session Configuration := do
  let s ← Snapshot.read
  let metadata ← Session.buildSchema s c.options
  return { c with metadata := metadata }

end CatalogSchema
