import CatalogSchema.Catalog.Snapshot
import CatalogSchema.Relation.Selection
import CatalogSchema.Typing.Classification

/-!
# Normalized relations

A selected relation is normalized when it has live columns and each has a type that can be exposed;
otherwise it is left out as a whole. `NormalizedRelation.ofSnapshot` gives the relations by identifier.
-/

namespace CatalogSchema

open Decoder (field fieldOr record)

structure NormalizedColumn where
  number : Int
  info : Column
  deriving DecidableEq, Repr

namespace NormalizedColumn

def decode : Decoder NormalizedColumn := record fun ms =>
  mk <$> field (.plain "number") .int ms
    <*> field (.plain "info") Column.decode ms

def encode (c : NormalizedColumn) : Json :=
  .obj [("number", .int c.number), ("info", c.info.encode .byName)]

end NormalizedColumn

/-- A queryable relation all of whose columns have a type that can be exposed. -/
structure NormalizedRelation where
  id : Int
  schemaId : Int
  schemaName : String
  name : String
  kind : String
  description : Option String
  columns : List NormalizedColumn
  deriving DecidableEq, Repr

namespace NormalizedRelation

def decode : Decoder NormalizedRelation := record fun ms =>
  mk <$> field (.plain "relation_id") .int ms
    <*> field (.plain "schema_id") .int ms
    <*> field (.plain "schema_name") .text ms
    <*> field (.plain "name") .text ms
    <*> field (.plain "kind") .text ms
    <*> fieldOr (.plain "description") (.nullable .text) none ms
    <*> field (.plain "columns") (.tuple NormalizedColumn.decode) ms

def encode (r : NormalizedRelation) : Json :=
  .obj
    [("relation_id", .int r.id), ("schema_id", .int r.schemaId), ("schema_name", .str r.schemaName),
     ("name", .str r.name), ("kind", .str r.kind), ("description", .ofOption .str r.description),
     ("columns", .arr (r.columns.map NormalizedColumn.encode))]

/-- The name of the column with a number. -/
def columnName? (r : NormalizedRelation) (number : Int) : Option String :=
  (r.columns.find? (·.number = number)).map (·.info.name)

/-- The names of the columns with the numbers, none when one of them is unknown. -/
def columnNames? (r : NormalizedRelation) (numbers : List Int) : Option (List String) :=
  numbers.mapM r.columnName?

end NormalizedRelation

namespace AttributeRow

def defaultMarker (a : AttributeRow) : DefaultMarker :=
  if a.hasDefault then .hasDefault else .noDefault

def identityMarker (a : AttributeRow) : IdentityMarker :=
  if a.identity = "a" then .always else if a.identity = "d" then .byDefault else .notIdentity

def generatedMarker (a : AttributeRow) : GeneratedMarker :=
  if a.generated = "s" then .stored else .notGenerated

/-- The column that a row describes, none when its type cannot be exposed. -/
def normalize? (s : Snapshot) (types : Classification) (a : AttributeRow) :
    Option NormalizedColumn :=
  (types.columnType? a.type).map fun type =>
    { number := a.number
      info :=
        { name := a.name
          type := type
          nullable := !a.notNull
          default := a.defaultMarker
          identity := a.identityMarker
          generated := a.generatedMarker
          description := s.attributeDescription? a } }

end AttributeRow

/-- What became of a selected relation. -/
inductive RelationStanding where
  | normalized (r : NormalizedRelation)
  /-- A live column has a type that cannot be exposed. -/
  | unsupported (a : AttributeRow)
  | noColumns
  deriving DecidableEq, Repr

namespace ClassRow

/-- The live columns of a relation, by their numbers. -/
def liveAttributes (s : Snapshot) (c : ClassRow) : List AttributeRow :=
  (s.attributes c.oid).filter AttributeRow.isLive

def standing (s : Snapshot) (types : Classification) (schemaName : String) (c : ClassRow) :
    RelationStanding :=
  let live := c.liveAttributes s
  match live.find? fun a => (types.columnType? a.type).isNone with
  | some a => .unsupported a
  | none =>
    match live.filterMap (AttributeRow.normalize? s types) with
    | [] => .noColumns
    | columns =>
      .normalized
        { id := c.oid
          schemaId := c.schema
          schemaName := schemaName
          name := c.name
          kind := c.kind
          description := s.classDescription? c
          columns := columns }

end ClassRow

/-- The names of the namespaces outside the excluded schemas. -/
def exposedSchemas (namespaces : List NamespaceRow) (excluded : List String) :
    OrderedMap Int String :=
  .ofList ((namespaces.filter (·.name ∉ excluded)).map fun n => (n.oid, n.name))

namespace NormalizedRelation

/-- Which relations are selected, and what becomes of each. -/
structure Survey where
  bids : List (Bid ClassRow)
  standings : List (ClassRow × RelationStanding)

def survey (s : Snapshot) (types : Classification) (excluded : List String) : Survey :=
  let schemas := exposedSchemas s.rows.namespaces excluded
  let bids := ClassRow.bids s.rows.classes schemas.keys
  { bids := bids
    standings := (Bid.winners bids).map fun c =>
      (c, c.standing s types ((schemas.find? c.schema).getD "")) }

def find? : ClassRow × RelationStanding → Option (Int × NormalizedRelation)
  | (_, .normalized r) => some (r.id, r)
  | _ => none

def Survey.relations (v : Survey) : OrderedMap Int NormalizedRelation :=
  .ofList (v.standings.filterMap find?)

/-- The normalized relations by identifier. -/
def ofSnapshot (s : Snapshot) (types : Classification) (excluded : List String) :
    OrderedMap Int NormalizedRelation :=
  (survey s types excluded).relations

def standingRecord? : ClassRow × RelationStanding → Option Log.Record
  | (_, .normalized _) => none
  | (c, .unsupported a) =>
    some (Log.Logger.relations.debug
      s!"Skipping relation {c.name}: column {a.name} has unsupported type {a.type}")
  | (c, .noColumns) => some (Log.Logger.relations.debug s!"Skipping relation {c.name}: no columns")

def Survey.records (v : Survey) : List Log.Record :=
  ClassRow.selectionRecords v.bids ++ v.standings.filterMap standingRecord? ++
    [Log.Logger.relations.debug s!"Normalized {v.relations.size} relations"]

end NormalizedRelation

end CatalogSchema
