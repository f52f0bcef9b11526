import CatalogSchema.Catalog.Row
import CatalogSchema.FirstCome
import CatalogSchema.Log.Record
import CatalogSchema.Order

/-!
# Selection of relations

Of the queryable relations in the given schemas one is selected for each name: the first by name,
schema and kind. The others are reported.
-/

namespace CatalogSchema

/-- The kinds that can be queried: table, view, materialized view, foreign table, partitioned table. -/
def queryableKinds : List String := ["r", "v", "m", "f", "p"]

namespace ClassRow

def isQueryable (c : ClassRow) : Bool := c.kind ∈ queryableKinds

/-- By name, schema and kind. -/
def compareCandidates : ClassRow → ClassRow → Ordering :=
  compareLex (compareOn name) (byTwo schema kind)

/-- The queryable relations in the given schemas, in the order of preference. -/
def candidates (classes : List ClassRow) (schemas : List Int) : List ClassRow :=
  sortBy compareCandidates (classes.filter fun c => c.isQueryable && c.schema ∈ schemas)

def bids (classes : List ClassRow) (schemas : List Int) : List (Bid ClassRow) :=
  Bid.settle name [] (candidates classes schemas)

/-- One queryable relation for each name. -/
def select (classes : List ClassRow) (schemas : List Int) : List ClassRow :=
  Bid.winners (bids classes schemas)

def selectionRecords (bids : List (Bid ClassRow)) : List Log.Record :=
  (Bid.losers bids).map fun (c, _) =>
    Log.Logger.relations.debug
      s!"Relation name {c.name} is ambiguous, ignoring the one in namespace {c.schema}"

end ClassRow

end CatalogSchema
