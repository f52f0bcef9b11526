import CatalogSchema.Operator.Resolution
import CatalogSchema.Schema.Assembly

/-!
# From a snapshot to the connector schema

`SchemaResolution.ofSnapshot` derives every part of the schema from a snapshot and the options;
`metadata` puts them together and `records` tells what was kept and what was left out on the way.
-/

namespace CatalogSchema

/-- All that is derived from a snapshot on the way to the schema. -/
structure SchemaResolution where
  typeStandings : List (TypeRow × TypeStanding)
  survey : NormalizedRelation.Survey
  uniqueness : List (ConstraintRow × UniquenessConstraint.Standing)
  foreignKeys : List (ConstraintRow × ForeignKey.Standing)
  aggregates : List (Bid Aggregate)
  operators : OperatorResolution
  tables : TableBids

namespace SchemaResolution

def ofSnapshot (s : Snapshot) (options : Options) : SchemaResolution :=
  let standings := Classification.standings s.rows.types excludedTypeNames
  let types := Classification.ofStandings standings
  let survey := NormalizedRelation.survey s types options.excludedSchemas
  let relations := survey.relations
  { typeStandings := standings
    survey := survey
    uniqueness := UniquenessConstraint.standings s.rows.constraints relations
    foreignKeys := ForeignKey.standings s relations options.excludedSchemas
    aggregates := Aggregate.bids s types
    operators := .ofSnapshot s types (ImplicitCast.ofRows s.rows.casts types ImplicitCast.excludedPairs)
      options.operatorMappings options.comparisonFunctions
    tables := .ofRelations relations.values options.unqualifiedSchemas }

def metadata (r : SchemaResolution) : Metadata where
  tables := r.tables.tables (r.uniqueness.filterMap UniquenessConstraint.resolved?)
    (r.foreignKeys.filterMap ForeignKey.resolved?)
  aggregates := Aggregate.functions (Bid.winners r.aggregates)
  comparisons := r.operators.comparisons

/-- How many tables and types the schema has. -/
def summary (m : Metadata) : Log.Record :=
  Log.Logger.schema.info <|
    s!"Introspected {m.tables.size} tables, {m.aggregates.size} aggregate argument types, " ++
      s!"{m.comparisons.size} comparison argument types"

def records (r : SchemaResolution) : List Log.Record :=
  Classification.records r.typeStandings ++ r.survey.records ++
    r.uniqueness.filterMap UniquenessConstraint.record? ++
    r.foreignKeys.filterMap ForeignKey.record? ++ Aggregate.records r.aggregates ++
    r.operators.records ++ r.tables.records ++
    [summary r.metadata, Log.timing Log.Logger.schema.name "schema assembly" none]

end SchemaResolution

/-- The connector schema of a snapshot. -/
def buildSchema (s : Snapshot) (options : Options) : Metadata :=
  (SchemaResolution.ofSnapshot s options).metadata

end CatalogSchema
