import CatalogSchema.Relation.Normalized

/-!
# Uniqueness constraints

The primary keys and unique constraints of normalized relations, each with the names of its columns
in the order of the key.
-/

namespace CatalogSchema

open Decoder (field record)

structure UniquenessConstraint where
  relation : Int
  name : String
  columns : List String
  deriving DecidableEq, Repr

/-- Constraints by the relation they belong to, then by name. -/
def ConstraintRow.inOrder (rows : List ConstraintRow) : List ConstraintRow :=
  sortBy (byTwo ConstraintRow.relation ConstraintRow.name) rows

namespace UniquenessConstraint

def decode : Decoder UniquenessConstraint := record fun ms =>
  mk <$> field (.plain "relation_id") .int ms
    <*> field (.plain "name") .text ms
    <*> field (.plain "columns") (.tuple .text) ms

def encode (c : UniquenessConstraint) : Json :=
  .obj [("relation_id", .int c.relation), ("name", .str c.name), ("columns", .ofStrings c.columns)]

/-- Unique constraints and primary keys. -/
def kinds : List String := ["u", "p"]

inductive Standing where
  | resolved (c : UniquenessConstraint)
  | unknownColumns (key : List Int)
  /-- Of another kind, without a key, or of a relation that is not normalized. -/
  | ignored
  deriving DecidableEq, Repr

def standing (relations : OrderedMap Int NormalizedRelation) (r : ConstraintRow) : Standing :=
  if r.kind ∈ kinds then
    match relations.find? r.relation, r.key.getD [] with
    | none, _ => .ignored
    | some _, [] => .ignored
    | some relation, key =>
      match relation.columnNames? key with
      | some columns => .resolved ⟨relation.id, r.name, columns⟩
      | none => .unknownColumns key
  else .ignored

def standings (rows : List ConstraintRow) (relations : OrderedMap Int NormalizedRelation) :
    List (ConstraintRow × Standing) :=
  (ConstraintRow.inOrder rows).map fun r => (r, standing relations r)

def resolved? : ConstraintRow × Standing → Option UniquenessConstraint
  | (_, .resolved c) => some c
  | _ => none

def ofRows (rows : List ConstraintRow) (relations : OrderedMap Int NormalizedRelation) :
    List UniquenessConstraint :=
  (standings rows relations).filterMap resolved?

def record? : ConstraintRow × Standing → Option Log.Record
  | (r, .unknownColumns key) =>
    some (Log.Logger.constraints.debug
      s!"Skipping constraint {r.name}: unknown key columns {Log.bracketed key}")
  | _ => none

end UniquenessConstraint

end CatalogSchema
