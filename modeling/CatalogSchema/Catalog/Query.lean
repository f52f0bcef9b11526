/-!
# The introspection query

One statement that reads all collections of a snapshot and returns them as one document. The members
of the document are those that a snapshot is decoded from.
-/

namespace CatalogSchema

/-- The query, line by line. -/
def introspectionQueryLines : List String :=
  ["",
   "with namespaces as (select ns.oid,",
   "                           ns.nspname",
   "                    from pg_catalog.pg_namespace as ns),",
   "",
   "     classes as (select cl.oid,",
   "                        cl.relname,",
   "                        cl.relnamespace,",
   "                        cl.relkind",
   "                 from pg_catalog.pg_class as cl),",
   "",
   "     attributes as (select att.attrelid,",
   "                           att.attname,",
   "                           att.attnum,",
   "                           att.atttypid,",
   "                           att.attnotnull,",
   "                           att.atthasdef,",
   "                           att.attidentity,",
   "                           att.attgenerated,",
   "                           att.attisdropped",
   "                    from pg_catalog.pg_attribute as att",
   "                    where att.attrelid in (select classes.oid",
   "                                           from classes",
   "                                           where classes.relkind in ('r', 'v', 'm', 'f', 'p'))),",
   "",
   "     types as (select t.oid,",
   "                      t.typname,",
   "                      t.typnamespace,",
   "                      t.typtype,",
   "                      t.typcategory,",
   "                      t.typelem",
   "               from pg_catalog.pg_type as t),",
   "",
   "     casts as (select c.castsource,",
   "                      c.casttarget,",
   "                      c.castcontext",
   "               from pg_catalog.pg_cast as c),",
   "",
   "     procs as (select p.oid,",
   "                      p.proname,",
   "                      p.pronamespace,",
   "                      p.prokind,",
   "                      p.prorettype,",
   "                      p.proargtypes::oid[] as proargtypes,",
   "                      p.provariadic,",
   "                      p.pronargdefaults",
   "               from pg_catalog.pg_proc as p),",
   "",
   "     operators as (select o.oid,",
   "                          o.oprname,",
   "                          o.oprleft,",
   "                          o.oprright,",
   "                          o.oprresult",
   "                   from pg_catalog.pg_operator as o),",
   "",
   "     aggregates as (select a.aggfnoid::oid as aggfnoid,",
   "                           a.aggnumdirectargs",
   "                    from pg_catalog.pg_aggregate as a),",
   "",
   "     constraints as (select c.oid,",
   "                            c.conname,",
   "                            c.contype,",
   "                            c.conrelid,",
   "                            c.confrelid,",
   "                            c.conkey,",
   "                            c.confkey",
   "                     from pg_catalog.pg_constraint as c",
   "                     where c.contype in ('p', 'u', 'f')),",
   "",
   "     descriptions as (select d.objoid,",
   "                             d.classoid,",
   "                             d.objsubid,",
   "                             d.description",
   "                      from pg_catalog.pg_description as d",
   "                      where d.classoid = 'pg_catalog.pg_class'::regclass)",
   "",
   "select json_build_object(",
   "               'namespaces',",
   "               (select coalesce((select json_agg(row_to_json(namespaces) order by nspname) from namespaces),",
   "                                '[]'::json)),",
   "               'classes',",
   "               (select coalesce((select json_agg(row_to_json(classes) order by relnamespace, relname) from classes),",
   "                                '[]'::json)),",
   "               'attributes',",
   "               (select coalesce((select json_agg(row_to_json(attributes) order by attrelid, attnum) from attributes),",
   "                                '[]'::json)),",
   "               'types',",
   "               (select coalesce((select json_agg(row_to_json(types) order by typnamespace, typname) from types),",
   "                                '[]'::json)),",
   "               'casts',",
   "               (select coalesce((select json_agg(row_to_json(casts) order by castsource, casttarget) from casts),",
   "                                '[]'::json)),",
   "               'procs',",
   "               (select coalesce((select json_agg(row_to_json(procs) order by pronamespace, proname, oid) from procs),",
   "                                '[]'::json)),",
   "               'operators',",
   "               (select coalesce((select json_agg(row_to_json(operators) order by oprname, oid) from operators),",
   "                                '[]'::json)),",
   "               'aggregates',",
   "               (select coalesce((select json_agg(row_to_json(aggregates) order by aggfnoid) from aggregates),",
   "                                '[]'::json)),",
   "               'constraints',",
   "               (select coalesce((select json_agg(row_to_json(constraints) order by conrelid, conname)",
   "                                 from constraints), '[]'::json)),",
   "               'descriptions',",
   "               (select coalesce((select json_agg(row_to_json(descriptions) order by objoid, classoid, objsubid)",
   "                                 from descriptions), '[]'::json)),",
   "               'catalog_by_oid',",
   "               (select json_object_agg(oid::text, relname order by relname asc)",
   "                from pg_catalog.pg_class",
   "                where relnamespace = 'pg_catalog'::regnamespace",
   "                  and relkind = 'r')",
   "       )::text as introspection",
   ""]

def introspectionQuery : String := "\n".intercalate introspectionQueryLines

end CatalogSchema
