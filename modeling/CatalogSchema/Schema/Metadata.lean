import CatalogSchema.Schema.Column

/-!
# The connector schema

`Metadata` is what introspection produces and what the connector serves: tables, aggregate functions
by argument type, and comparison functions by the type of their first argument. Every part has a
reader and a writer.
-/

namespace CatalogSchema

open Decoder (field fieldOr record)

/-- A foreign key of a table: the table it refers to and the columns, each with the one it refers to. -/
structure ForeignRelation where
  schema : String
  table : String
  columns : OrderedMap String String
  deriving DecidableEq, Repr

namespace ForeignRelation

def decode : Decoder ForeignRelation := record fun ms =>
  mk <$> field ⟨"foreign_schema", "foreignSchema"⟩ .text ms
    <*> field ⟨"foreign_table", "foreignTable"⟩ .text ms
    <*> field ⟨"column_mapping", "columnMapping"⟩ (.mapping .text) ms

def encode (sp : Spelling) (r : ForeignRelation) : Json :=
  .obj
    [(sp.pick "foreign_schema" "foreignSchema", .str r.schema),
     (sp.pick "foreign_table" "foreignTable", .str r.table),
     (sp.pick "column_mapping" "columnMapping", .ofMap .str r.columns)]

end ForeignRelation

structure Table where
  schema : String
  name : String
  description : Option String
  columns : OrderedMap String Column
  uniqueness : OrderedMap String (List String)
  foreignRelations : OrderedMap String ForeignRelation
  deriving DecidableEq, Repr

namespace Table

def decode : Decoder Table := record fun ms =>
  mk <$> field ⟨"schema_name", "schemaName"⟩ .text ms
    <*> field ⟨"table_name", "tableName"⟩ .text ms
    <*> fieldOr (.plain "description") (.nullable .text) none ms
    <*> field (.plain "columns") (.mapping Column.decode) ms
    <*> fieldOr ⟨"uniqueness_constraints", "uniquenessConstraints"⟩ (.mapping (.list .text)) .empty ms
    <*> fieldOr ⟨"foreign_relations", "foreignRelations"⟩ (.mapping ForeignRelation.decode) .empty ms

def encode (sp : Spelling) (t : Table) : Json :=
  .obj
    [(sp.pick "schema_name" "schemaName", .str t.schema),
     (sp.pick "table_name" "tableName", .str t.name),
     ("description", .ofOption .str t.description),
     ("columns", .ofMap (Column.encode sp) t.columns),
     (sp.pick "uniqueness_constraints" "uniquenessConstraints", .ofMap .ofStrings t.uniqueness),
     (sp.pick "foreign_relations" "foreignRelations",
      .ofMap (ForeignRelation.encode sp) t.foreignRelations)]

end Table

structure AggregateFunction where
  returnType : String
  deriving DecidableEq, Repr

namespace AggregateFunction

def decode : Decoder AggregateFunction := record fun ms =>
  mk <$> field ⟨"return_type", "returnType"⟩ .text ms

def encode (sp : Spelling) (f : AggregateFunction) : Json :=
  .obj [(sp.pick "return_type" "returnType", .str f.returnType)]

end AggregateFunction

structure ComparisonFunction where
  operator : String
  argumentType : String
  isInfix : Bool
  deriving DecidableEq, Repr

namespace ComparisonFunction

def decode : Decoder ComparisonFunction := record fun ms =>
  mk <$> field ⟨"operator_name", "operatorName"⟩ .text ms
    <*> field ⟨"argument_type", "argumentType"⟩ .text ms
    <*> fieldOr ⟨"is_infix", "isInfix"⟩ .flag true ms

def encode (sp : Spelling) (f : ComparisonFunction) : Json :=
  .obj
    [(sp.pick "operator_name" "operatorName", .str f.operator),
     (sp.pick "argument_type" "argumentType", .str f.argumentType),
     (sp.pick "is_infix" "isInfix", .bool f.isInfix)]

end ComparisonFunction

/-- Tables by exposed name, functions by type and name. -/
structure Metadata where
  tables : OrderedMap String Table
  aggregates : OrderedMap String (OrderedMap String AggregateFunction)
  comparisons : OrderedMap String (OrderedMap String ComparisonFunction)
  deriving DecidableEq, Repr

namespace Metadata

def empty : Metadata := ⟨.empty, .empty, .empty⟩

def decode : Decoder Metadata := record fun ms =>
  mk <$> fieldOr ⟨"tables", "Tables"⟩ (.mapping Table.decode) .empty ms
    <*> fieldOr ⟨"aggregate_functions", "AggregateFunctions"⟩
      (.mapping (.mapping AggregateFunction.decode)) .empty ms
    <*> fieldOr ⟨"comparison_functions", "ComparisonFunctions"⟩
      (.mapping (.mapping ComparisonFunction.decode)) .empty ms

def encode (sp : Spelling) (m : Metadata) : Json :=
  .obj
    [(sp.pick "tables" "Tables", .ofMap (Table.encode sp) m.tables),
     (sp.pick "aggregate_functions" "AggregateFunctions",
      .ofMap (Json.ofMap (AggregateFunction.encode sp)) m.aggregates),
     (sp.pick "comparison_functions" "ComparisonFunctions",
      .ofMap (Json.ofMap (ComparisonFunction.encode sp)) m.comparisons)]

end Metadata

end CatalogSchema
