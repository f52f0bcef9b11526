import CatalogSchema.Json.Encoder
import CatalogSchema.Validation.Decoder

/-!
# Columns

A column has a scalar type or an array of one, and three markers that are written only when they say
something: `Column.encode` leaves out a marker with its default value and `Column.decode` puts it
back.
-/

namespace CatalogSchema

open Decoder (field fieldOr record)

/-- The type of a column, by the name of the scalar type that it is or is an array of. -/
inductive ColumnType where
  | scalar (name : String)
  | array (element : String)
  deriving DecidableEq, Repr

namespace ColumnType

/-- The name in the form of a scalar type. -/
def decodeScalar : Decoder String := record fun ms =>
  field ⟨"scalar_type", "scalarType"⟩ .text ms

/-- The name of the elements in the form of an array type. -/
def decodeArray : Decoder String := record fun ms =>
  field ⟨"array_type", "arrayType"⟩ decodeScalar ms

def decode : Decoder ColumnType :=
  .either "ScalarColumnType" (fun j => scalar <$> decodeScalar j)
    "ArrayColumnType" (fun j => array <$> decodeArray j)

def encodeScalar (sp : Spelling) (name : String) : Json :=
  .obj [(sp.pick "scalar_type" "scalarType", .str name)]

def encodeArray (sp : Spelling) (element : String) : Json :=
  .obj [(sp.pick "array_type" "arrayType", encodeScalar sp element)]

def encode (sp : Spelling) : ColumnType → Json
  | scalar name => encodeScalar sp name
  | array element => encodeArray sp element

end ColumnType

inductive DefaultMarker where
  | noDefault
  | hasDefault
  deriving DecidableEq, Repr

namespace DefaultMarker

def name : DefaultMarker → String
  | noDefault => "noDefault"
  | hasDefault => "hasDefault"

def ofName? (s : String) : Option DefaultMarker := [noDefault, hasDefault].find? (·.name = s)

end DefaultMarker

inductive IdentityMarker where
  | notIdentity
  | byDefault
  | always
  deriving DecidableEq, Repr

namespace IdentityMarker

def name : IdentityMarker → String
  | notIdentity => "notIdentity"
  | byDefault => "identityByDefault"
  | always => "identityAlways"

def ofName? (s : String) : Option IdentityMarker :=
  [notIdentity, byDefault, always].find? (·.name = s)

end IdentityMarker

inductive GeneratedMarker where
  | notGenerated
  | stored
  deriving DecidableEq, Repr

namespace GeneratedMarker

def name : GeneratedMarker → String
  | notGenerated => "notGenerated"
  | stored => "stored"

def ofName? (s : String) : Option GeneratedMarker := [notGenerated, stored].find? (·.name = s)

end GeneratedMarker

structure Column where
  name : String
  type : ColumnType
  nullable : Bool
  default : DefaultMarker
  identity : IdentityMarker
  generated : GeneratedMarker
  description : Option String
  deriving DecidableEq, Repr

namespace Column

def decode : Decoder Column := record fun ms =>
  mk <$> field (.plain "name") .text ms
    <*> field (.plain "type") ColumnType.decode ms
    <*> fieldOr (.plain "nullable") .flag true ms
    <*> fieldOr ⟨"has_default", "hasDefault"⟩ (.member DefaultMarker.ofName?) .noDefault ms
    <*> fieldOr ⟨"is_identity", "isIdentity"⟩ (.member IdentityMarker.ofName?) .notIdentity ms
    <*> fieldOr ⟨"is_generated", "isGenerated"⟩ (.member GeneratedMarker.ofName?) .notGenerated ms
    <*> fieldOr (.plain "description") (.nullable .text) none ms

/-- A marker as a member, left out when it has its default value. -/
def marker {α : Type} [DecidableEq α] (key : String) (name : α → String) (default value : α) :
    List (String × Json) :=
  if value = default then [] else [(key, .str (name value))]

def encode (sp : Spelling) (c : Column) : Json :=
  .obj
    ([("name", .str c.name), ("type", c.type.encode sp), ("nullable", .bool c.nullable)]
      ++ marker (sp.pick "has_default" "hasDefault") DefaultMarker.name .noDefault c.default
      ++ marker (sp.pick "is_identity" "isIdentity") IdentityMarker.name .notIdentity c.identity
      ++ marker (sp.pick "is_generated" "isGenerated") GeneratedMarker.name .notGenerated c.generated
      ++ [("description", .ofOption .str c.description)])

end Column

end CatalogSchema
