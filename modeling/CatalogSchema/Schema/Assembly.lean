import CatalogSchema.Aggregate
import CatalogSchema.Constraint.ForeignKey
import CatalogSchema.Schema.Metadata

/-!
# Assembly of tables and aggregate functions

Every normalized relation bids for its exposed name, in the order of name and schema; the first one
becomes the table of that name and the others are left out. All mappings ascend by key, save the
columns of a foreign key, which keep the order of the constraint.
-/

namespace CatalogSchema

namespace NormalizedRelation

/-- The name of the table: qualified by the schema unless that is one of `unqualified`. -/
def exposedName (unqualified : List String) (r : NormalizedRelation) : String :=
  if r.schemaName ∈ unqualified then r.name else r.schemaName ++ "_" ++ r.name

/-- The columns by name. -/
def columnMap (r : NormalizedRelation) : OrderedMap String Column :=
  .ofList ((sortOn (·.info.name) r.columns).map fun c => (c.info.name, c.info))

end NormalizedRelation

def UniquenessConstraint.entry (c : UniquenessConstraint) : Int × String × List String :=
  (c.relation, c.name, c.columns)

namespace ForeignKey

def toRelation (k : ForeignKey) : ForeignRelation :=
  ⟨k.foreignSchema, k.foreignTable, .ofList (k.columns.zip k.foreignColumns)⟩

def entry (k : ForeignKey) : Int × String × ForeignRelation := (k.relation, k.name, k.toRelation)

end ForeignKey

/-- Which relations get the name that they would be exposed by. -/
structure TableBids where
  unqualified : List String
  bids : List (Bid NormalizedRelation)

namespace TableBids

def ofRelations (relations : List NormalizedRelation) (unqualified : List String) : TableBids where
  unqualified := unqualified
  bids := Bid.settle (NormalizedRelation.exposedName unqualified) []
    (sortBy (byTwo NormalizedRelation.name NormalizedRelation.schemaName) relations)

/-- The tables by exposed name, each with the constraints of its own relation. -/
def tables (b : TableBids) (uniqueness : List UniquenessConstraint)
    (foreignKeys : List ForeignKey) : OrderedMap String Table :=
  let uniquenessOf := OrderedMap.nest (uniqueness.map UniquenessConstraint.entry)
  let foreignOf := OrderedMap.nest (foreignKeys.map ForeignKey.entry)
  let table (r : NormalizedRelation) : Table :=
    { schema := r.schemaName
      name := r.name
      description := r.description
      columns := r.columnMap
      uniqueness := ((uniquenessOf.find? r.id).getD .empty).sortByKey
      foreignRelations := ((foreignOf.find? r.id).getD .empty).sortByKey }
  (OrderedMap.ofList ((Bid.winners b.bids).map fun r => (r.exposedName b.unqualified, table r))).sortByKey

def records (b : TableBids) : List Log.Record :=
  (Bid.losers b.bids).map fun (r, holder) =>
    Log.Logger.schema.warning <|
      s!"Table {r.schemaName}.{r.name} is exposed as {r.exposedName b.unqualified}, " ++
        s!"which is already taken by {holder.schemaName}.{holder.name}; it is left out"

end TableBids

namespace Aggregate

def entry (a : Aggregate) : String × String × AggregateFunction :=
  (a.argumentType, a.name, ⟨a.returnType⟩)

/-- Aggregate functions by argument type, then by name. -/
def functions (as : List Aggregate) : OrderedMap String (OrderedMap String AggregateFunction) :=
  .nest ((sortBy (byTwo argumentType name) as).map entry)

end Aggregate

end CatalogSchema
