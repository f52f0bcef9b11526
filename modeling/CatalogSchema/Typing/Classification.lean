import CatalogSchema.Catalog.Row
import CatalogSchema.Log.Record
import CatalogSchema.Schema.Column

/-!
# Scalar and array types

Every type of the catalog has a `TypeStanding`: it is a scalar type, an array of one, an array whose
elements are no scalars, or none of these. `Classification.ofRows` keeps the first two. A denied name
keeps a type from being a scalar type but not from being the element of an array.
-/

namespace CatalogSchema

open Decoder (field fieldOr record)

structure ScalarType where
  id : Int
  schema : Int
  name : String
  deriving DecidableEq, Repr

namespace ScalarType

def decode : Decoder ScalarType := record fun ms =>
  mk <$> field (.plain "type_id") .int ms
    <*> field (.plain "schema_id") .int ms
    <*> field (.plain "name") .text ms

def encode (t : ScalarType) : Json :=
  .obj [("type_id", .int t.id), ("schema_id", .int t.schema), ("name", .str t.name)]

end ScalarType

structure ArrayType where
  id : Int
  schema : Int
  element : String
  deriving DecidableEq, Repr

def ArrayType.encode (t : ArrayType) : Json :=
  .obj [("type_id", .int t.id), ("schema_id", .int t.schema),
    ("element_type_name", .str t.element)]

/-- Kinds that cannot be exposed: composite and pseudo-types. -/
def excludedTypeKinds : List String := ["c", "p"]

/-- Types that are primarily for internal use. -/
def excludedTypeNames : List String :=
  ["aclitem", "cid", "gidx", "name", "oid", "pg_dependencies", "pg_lsn", "pg_mcv_list",
   "pg_ndistinct", "pg_node_tree", "regclass", "regcollation", "regconfig", "regdictionary",
   "regnamespace", "regoper", "regoperator", "regproc", "regprocedure", "regrole", "regtype", "tid",
   "xid", "xid8"]

namespace TypeRow

def isExcludedKind (t : TypeRow) : Bool := t.kind ∈ excludedTypeKinds

/-- A true array: it has elements and the catalog files it under arrays. -/
def isArray (t : TypeRow) : Bool := t.element ≠ 0 && t.category = "A"

/-- Fit to be the element of an array, whatever its name. -/
def isElement (t : TypeRow) : Bool := !t.isExcludedKind && !t.isArray

end TypeRow

inductive TypeStanding where
  | scalar
  | array (element : String)
  /-- An array whose elements are unknown or no scalars. -/
  | elementless
  | hidden
  deriving DecidableEq, Repr

/-- The standing of a type among the types that `types` lists by identifier. -/
def TypeRow.standing (types : OrderedMap Int TypeRow) (denied : List String) (t : TypeRow) :
    TypeStanding :=
  if t.isExcludedKind then .hidden
  else if t.isArray then
    match (types.find? t.element).filter TypeRow.isElement with
    | some element => .array element.name
    | none => .elementless
  else if t.name ∈ denied then .hidden
  else .scalar

/-- Scalar and array types by identifier. -/
structure Classification where
  scalars : OrderedMap Int ScalarType
  arrays : OrderedMap Int ArrayType
  deriving DecidableEq, Repr

namespace Classification

/-- Each type with its standing; of types with one identifier the last counts. -/
def standings (rows : List TypeRow) (denied : List String) : List (TypeRow × TypeStanding) :=
  let types := OrderedMap.indexBy TypeRow.oid rows
  types.values.map fun t => (t, t.standing types denied)

def keyedScalar? : TypeRow × TypeStanding → Option (Int × ScalarType)
  | (t, .scalar) => some (t.oid, ⟨t.oid, t.schema, t.name⟩)
  | _ => none

def keyedArray? : TypeRow × TypeStanding → Option (Int × ArrayType)
  | (t, .array element) => some (t.oid, ⟨t.oid, t.schema, element⟩)
  | _ => none

def ofStandings (ss : List (TypeRow × TypeStanding)) : Classification where
  scalars := .ofList (ss.filterMap keyedScalar?)
  arrays := .ofList (ss.filterMap keyedArray?)

def ofRows (rows : List TypeRow) (denied : List String) : Classification :=
  ofStandings (standings rows denied)

def scalarName? (c : Classification) (id : Int) : Option String :=
  (c.scalars.find? id).map ScalarType.name

/-- The type of a column, none when it cannot be exposed. -/
def columnType? (c : Classification) (id : Int) : Option ColumnType :=
  match c.scalars.find? id with
  | some t => some (.scalar t.name)
  | none => (c.arrays.find? id).map fun t => .array t.element

/-- What is reported about a type. -/
def standingRecord? : TypeRow × TypeStanding → Option Log.Record
  | (t, .elementless) =>
    some (Log.Logger.types.debug s!"Type {t.name} has no scalar element type, skipping")
  | _ => none

def records (ss : List (TypeRow × TypeStanding)) : List Log.Record :=
  let c := ofStandings ss
  ss.filterMap standingRecord? ++
    [Log.Logger.types.debug
      s!"Classified {c.scalars.size} scalar and {c.arrays.size} array types out of {ss.length}"]

end Classification

end CatalogSchema
