import CatalogSchema.Validation.Decoder

/-!
# Rows of the catalog

One structure for each catalog collection, with its reader and its writer. The member names are those
of the database's own columns; `decode` and `encode` list the fields in the same order.
-/

namespace CatalogSchema

open Decoder (field fieldOr record)

/-- A namespace. -/
structure NamespaceRow where
  oid : Int
  name : String
  deriving DecidableEq, Repr

namespace NamespaceRow

def decode : Decoder NamespaceRow := record fun ms =>
  mk <$> field (.plain "oid") .int ms
    <*> field (.plain "nspname") .text ms

def encode (r : NamespaceRow) : Json :=
  .obj
    [("oid", .int r.oid), ("nspname", .str r.name)]

end NamespaceRow

/-- A relation of any kind: tables, views, indexes, sequences. -/
structure ClassRow where
  oid : Int
  name : String
  schema : Int
  kind : String
  deriving DecidableEq, Repr

namespace ClassRow

def decode : Decoder ClassRow := record fun ms =>
  mk <$> field (.plain "oid") .int ms
    <*> field (.plain "relname") .text ms
    <*> field (.plain "relnamespace") .int ms
    <*> field (.plain "relkind") .text ms

def encode (r : ClassRow) : Json :=
  .obj
    [("oid", .int r.oid), ("relname", .str r.name), ("relnamespace", .int r.schema),
     ("relkind", .str r.kind)]

end ClassRow

/-- A column of a relation. -/
structure AttributeRow where
  relation : Int
  name : String
  number : Int
  type : Int
  notNull : Bool
  hasDefault : Bool
  identity : String
  generated : String
  dropped : Bool
  deriving DecidableEq, Repr

namespace AttributeRow

def decode : Decoder AttributeRow := record fun ms =>
  mk <$> field (.plain "attrelid") .int ms
    <*> field (.plain "attname") .text ms
    <*> field (.plain "attnum") .int ms
    <*> field (.plain "atttypid") .int ms
    <*> fieldOr (.plain "attnotnull") .flag false ms
    <*> fieldOr (.plain "atthasdef") .flag false ms
    <*> fieldOr (.plain "attidentity") .text "" ms
    <*> fieldOr (.plain "attgenerated") .text "" ms
    <*> fieldOr (.plain "attisdropped") .flag false ms

def encode (r : AttributeRow) : Json :=
  .obj
    [("attrelid", .int r.relation), ("attname", .str r.name), ("attnum", .int r.number),
     ("atttypid", .int r.type), ("attnotnull", .bool r.notNull),
     ("atthasdef", .bool r.hasDefault), ("attidentity", .str r.identity),
     ("attgenerated", .str r.generated), ("attisdropped", .bool r.dropped)]

end AttributeRow

/-- A type; `element` is the type of its elements when it has subscripts, else 0. -/
structure TypeRow where
  oid : Int
  name : String
  schema : Int
  kind : String
  category : String
  element : Int
  deriving DecidableEq, Repr

namespace TypeRow

def decode : Decoder TypeRow := record fun ms =>
  mk <$> field (.plain "oid") .int ms
    <*> field (.plain "typname") .text ms
    <*> field (.plain "typnamespace") .int ms
    <*> fieldOr (.plain "typtype") .text "b" ms
    <*> fieldOr (.plain "typcategory") .text "U" ms
    <*> fieldOr (.plain "typelem") .int 0 ms

def encode (r : TypeRow) : Json :=
  .obj
    [("oid", .int r.oid), ("typname", .str r.name), ("typnamespace", .int r.schema),
     ("typtype", .str r.kind), ("typcategory", .str r.category), ("typelem", .int r.element)]

end TypeRow

/-- A cast between two types. -/
structure CastRow where
  source : Int
  target : Int
  context : String
  deriving DecidableEq, Repr

namespace CastRow

def decode : Decoder CastRow := record fun ms =>
  mk <$> field (.plain "castsource") .int ms
    <*> field (.plain "casttarget") .int ms
    <*> field (.plain "castcontext") .text ms

def encode (r : CastRow) : Json :=
  .obj
    [("castsource", .int r.source), ("casttarget", .int r.target),
     ("castcontext", .str r.context)]

end CastRow

/-- A function, procedure or aggregate. -/
structure ProcRow where
  oid : Int
  name : String
  schema : Int
  kind : String
  returnType : Int
  argumentTypes : List Int
  variadic : Int
  defaults : Int
  deriving DecidableEq, Repr

namespace ProcRow

def decode : Decoder ProcRow := record fun ms =>
  mk <$> field (.plain "oid") .int ms
    <*> field (.plain "proname") .text ms
    <*> field (.plain "pronamespace") .int ms
    <*> fieldOr (.plain "prokind") .text "f" ms
    <*> field (.plain "prorettype") .int ms
    <*> fieldOr (.plain "proargtypes") (.list .int) [] ms
    <*> fieldOr (.plain "provariadic") .int 0 ms
    <*> fieldOr (.plain "pronargdefaults") .int 0 ms

def encode (r : ProcRow) : Json :=
  .obj
    [("oid", .int r.oid), ("proname", .str r.name), ("pronamespace", .int r.schema),
     ("prokind", .str r.kind), ("prorettype", .int r.returnType),
     ("proargtypes", .ofInts r.argumentTypes), ("provariadic", .int r.variadic),
     ("pronargdefaults", .int r.defaults)]

end ProcRow

/-- An operator. -/
structure OperatorRow where
  oid : Int
  name : String
  left : Int
  right : Int
  result : Int
  deriving DecidableEq, Repr

namespace OperatorRow

def decode : Decoder OperatorRow := record fun ms =>
  mk <$> field (.plain "oid") .int ms
    <*> field (.plain "oprname") .text ms
    <*> field (.plain "oprleft") .int ms
    <*> field (.plain "oprright") .int ms
    <*> field (.plain "oprresult") .int ms

def encode (r : OperatorRow) : Json :=
  .obj
    [("oid", .int r.oid), ("oprname", .str r.name), ("oprleft", .int r.left),
     ("oprright", .int r.right), ("oprresult", .int r.result)]

end OperatorRow

/-- The aggregate binding of a procedure. -/
structure AggregateRow where
  proc : Int
  directArguments : Int
  deriving DecidableEq, Repr

namespace AggregateRow

def decode : Decoder AggregateRow := record fun ms =>
  mk <$> field (.plain "aggfnoid") .int ms
    <*> fieldOr (.plain "aggnumdirectargs") .int 0 ms

def encode (r : AggregateRow) : Json :=
  .obj
    [("aggfnoid", .int r.proc), ("aggnumdirectargs", .int r.directArguments)]

end AggregateRow

/-- A constraint; `key` are the ordinals of its columns, `foreignKey` those they refer to. -/
structure ConstraintRow where
  oid : Int
  name : String
  kind : String
  relation : Int
  foreignRelation : Int
  key : Option (List Int)
  foreignKey : Option (List Int)
  deriving DecidableEq, Repr

namespace ConstraintRow

def decode : Decoder ConstraintRow := record fun ms =>
  mk <$> field (.plain "oid") .int ms
    <*> field (.plain "conname") .text ms
    <*> field (.plain "contype") .text ms
    <*> field (.plain "conrelid") .int ms
    <*> fieldOr (.plain "confrelid") .int 0 ms
    <*> fieldOr (.plain "conkey") (.nullable (.list .int)) none ms
    <*> fieldOr (.plain "confkey") (.nullable (.list .int)) none ms

def encode (r : ConstraintRow) : Json :=
  .obj
    [("oid", .int r.oid), ("conname", .str r.name), ("contype", .str r.kind),
     ("conrelid", .int r.relation), ("confrelid", .int r.foreignRelation),
     ("conkey", .ofOption .ofInts r.key), ("confkey", .ofOption .ofInts r.foreignKey)]

end ConstraintRow

/-- A comment on an object or, with a nonzero `part`, on a part of it. -/
structure DescriptionRow where
  object : Int
  catalog : Int
  part : Int
  text : String
  deriving DecidableEq, Repr

namespace DescriptionRow

def decode : Decoder DescriptionRow := record fun ms =>
  mk <$> field (.plain "objoid") .int ms
    <*> field (.plain "classoid") .int ms
    <*> fieldOr (.plain "objsubid") .int 0 ms
    <*> field (.plain "description") .text ms

def encode (r : DescriptionRow) : Json :=
  .obj
    [("objoid", .int r.object), ("classoid", .int r.catalog), ("objsubid", .int r.part),
     ("description", .str r.text)]

end DescriptionRow

/-- A column that exists: dropped ones linger in the catalog, and system columns are numbered from
zero down. -/
def AttributeRow.isLive (r : AttributeRow) : Bool := !r.dropped && 0 < r.number

end CatalogSchema
