import CatalogSchema.Typing.Classification

/-!
# Implicit casts

The casts that the database applies by itself from one scalar type to another, ordered by source and
target. A cast from a type to itself and the excluded pairs are left out.
-/

namespace CatalogSchema

open Decoder (field record)

structure ImplicitCast where
  source : String
  target : String
  deriving DecidableEq, Repr

namespace ImplicitCast

def decode : Decoder ImplicitCast := record fun ms =>
  mk <$> field (.plain "from_type") .text ms
    <*> field (.plain "to_type") .text ms

def encode (c : ImplicitCast) : Json :=
  .obj [("from_type", .str c.source), ("to_type", .str c.target)]

/-- Pairs of types that no comparison needs. -/
def excludedPairs : List (String × String) :=
  [("bytea", "geography"), ("bytea", "geometry"), ("geography", "bytea"), ("geometry", "bytea"),
   ("geometry", "text"), ("text", "geometry")]

/-- The context of a cast that is applied without being asked for. -/
def implicitContext : String := "i"

/-- The implicit cast that a row stands for. -/
def ofRow? (types : Classification) (excluded : List (String × String)) (r : CastRow) :
    Option ImplicitCast :=
  if r.context = implicitContext then
    match types.scalarName? r.source, types.scalarName? r.target with
    | some source, some target =>
      if source = target ∨ (source, target) ∈ excluded then none else some ⟨source, target⟩
    | _, _ => none
  else none

def ofRows (rows : List CastRow) (types : Classification) (excluded : List (String × String)) :
    List ImplicitCast :=
  sortBy (byTwo source target) (rows.filterMap (ofRow? types excluded)).eraseDups

end ImplicitCast

end CatalogSchema
