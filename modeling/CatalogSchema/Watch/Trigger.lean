/-!
# Triggers on schema changes

The script that makes the database announce schema changes: two functions that notify the listeners of
a channel, and two event triggers that call them, one for commands that create or alter something and
one for all that is dropped. Running it again replaces what an earlier run installed.
-/

namespace CatalogSchema.Watch

/-- The channel that changes are announced on. -/
def channel : String := "pgndc_watch"

/-- The commands that count as a change. -/
def watchedTags : List String :=
  ["ALTER AGGREGATE", "ALTER DOMAIN", "ALTER EXTENSION", "ALTER FOREIGN TABLE", "ALTER FUNCTION",
   "ALTER MATERIALIZED VIEW", "ALTER OPERATOR", "ALTER SCHEMA", "ALTER TABLE", "ALTER TYPE",
   "ALTER VIEW", "COMMENT", "CREATE AGGREGATE", "CREATE CAST", "CREATE DOMAIN",
   "CREATE EXTENSION", "CREATE FOREIGN TABLE", "CREATE FUNCTION", "CREATE MATERIALIZED VIEW",
   "CREATE OPERATOR", "CREATE SCHEMA", "CREATE TABLE", "CREATE TABLE AS", "CREATE TYPE",
   "CREATE VIEW", "DROP AGGREGATE", "DROP CAST", "DROP DOMAIN", "DROP EXTENSION",
   "DROP FOREIGN TABLE", "DROP FUNCTION", "DROP MATERIALIZED VIEW", "DROP OPERATOR", "DROP OWNED",
   "DROP SCHEMA", "DROP TABLE", "DROP TYPE", "DROP VIEW", "SELECT INTO"]

/-- The functions that notify the listeners, and the head of the first trigger. -/
def triggerHead : List String :=
  ["",
   "drop schema if exists pgndc_watch cascade;",
   "",
   "create schema pgndc_watch;",
   "",
   "create function pgndc_watch.notify_watchers_ddl() returns event_trigger as $$",
   "begin",
   "  perform pg_notify(",
   "    'pgndc_watch',",
   "    json_build_object(",
   "      'type',",
   "      'ddl',",
   "      'payload',",
   "      (select json_agg(json_build_object('schema', schema_name, 'command', command_tag)) from pg_event_trigger_ddl_commands() as x)",
   "    )::text",
   "  );",
   "end;",
   "$$ language plpgsql;",
   "",
   "create function pgndc_watch.notify_watchers_drop() returns event_trigger as $$",
   "begin",
   "  perform pg_notify(",
   "    'pgndc_watch',",
   "    json_build_object(",
   "      'type',",
   "      'drop',",
   "      'payload',",
   "      (select json_agg(distinct x.schema_name) from pg_event_trigger_dropped_objects() as x)",
   "    )::text",
   "  );",
   "end;",
   "$$ language plpgsql;",
   "",
   "create event trigger pgndc_watch_ddl",
   "  on ddl_command_end",
   "  when tag in (",
   "    -- Ref: https://www.postgresql.org/docs/current/event-trigger-matrix.html"]

/-- The end of the first trigger, and the second one. -/
def triggerTail : List String :=
  ["  )",
   "  execute procedure pgndc_watch.notify_watchers_ddl();",
   "",
   "create event trigger pgndc_watch_drop",
   "  on sql_drop",
   "  execute procedure pgndc_watch.notify_watchers_drop();",
   ""]

def quotedTags : String := ",\n".intercalate (watchedTags.map fun tag => "    '" ++ tag ++ "'")

def triggerScript : String := "\n".intercalate (triggerHead ++ [quotedTags] ++ triggerTail)

end CatalogSchema.Watch
