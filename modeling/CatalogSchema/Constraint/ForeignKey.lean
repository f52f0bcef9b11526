import CatalogSchema.Constraint.Uniqueness

/-!
# Foreign keys

The foreign keys of normalized relations, mapped position by position to the columns they refer to.
The relation referred to only has to be known and outside the excluded schemas; its columns are
looked up in the snapshot, so it may itself be left out of the schema.
-/

namespace CatalogSchema

open Decoder (field record)

structure ForeignKey where
  relation : Int
  name : String
  columns : List String
  foreignRelation : Int
  foreignSchema : String
  foreignTable : String
  foreignColumns : List String
  deriving DecidableEq, Repr

/-- The names of a relation's live columns by number; the last row with a number counts. -/
def Snapshot.liveNames (s : Snapshot) (c : ClassRow) : OrderedMap Int String :=
  .ofList ((c.liveAttributes s).map fun a => (a.number, a.name))

/-- The names of the live columns with the numbers, none when one of them is unknown. -/
def Snapshot.liveColumnNames? (s : Snapshot) (c : ClassRow) (numbers : List Int) :
    Option (List String) :=
  let names := s.liveNames c
  numbers.mapM names.find?

namespace ForeignKey

def decode : Decoder ForeignKey := record fun ms =>
  mk <$> field (.plain "relation_id") .int ms
    <*> field (.plain "name") .text ms
    <*> field (.plain "columns") (.tuple .text) ms
    <*> field (.plain "referenced_relation_id") .int ms
    <*> field (.plain "referenced_schema_name") .text ms
    <*> field (.plain "referenced_table_name") .text ms
    <*> field (.plain "referenced_columns") (.tuple .text) ms

def encode (k : ForeignKey) : Json :=
  .obj
    [("relation_id", .int k.relation), ("name", .str k.name), ("columns", .ofStrings k.columns),
     ("referenced_relation_id", .int k.foreignRelation),
     ("referenced_schema_name", .str k.foreignSchema),
     ("referenced_table_name", .str k.foreignTable),
     ("referenced_columns", .ofStrings k.foreignColumns)]

def kind : String := "f"

inductive Standing where
  | resolved (k : ForeignKey)
  /-- The relation referred to is unknown or in an excluded schema. -/
  | unknownRelation (owner : NormalizedRelation)
  | unknownColumns (owner : NormalizedRelation)
  /-- Of another kind, or of a relation that is not normalized. -/
  | ignored
  deriving DecidableEq, Repr

/-- The relation referred to and its namespace, when that is not excluded. -/
def target? (s : Snapshot) (excluded : List String) (r : ConstraintRow) :
    Option (ClassRow × NamespaceRow) := do
  let target ← s.foreignClass? r
  let schema ← s.classNamespace? target
  if schema.name ∈ excluded then none else some (target, schema)

/-- The columns of a key and the ones they refer to: as many of both, and at least one. -/
def columnPairs? (s : Snapshot) (owner : NormalizedRelation) (target : ClassRow)
    (r : ConstraintRow) : Option (List String × List String) := do
  let columns ← owner.columnNames? (r.key.getD [])
  let foreignColumns ← s.liveColumnNames? target (r.foreignKey.getD [])
  if columns ≠ [] ∧ columns.length = foreignColumns.length then some (columns, foreignColumns)
  else none

def standing (s : Snapshot) (relations : OrderedMap Int NormalizedRelation)
    (excluded : List String) (r : ConstraintRow) : Standing :=
  if r.kind = kind then
    match relations.find? r.relation with
    | none => .ignored
    | some owner =>
      match target? s excluded r with
      | none => .unknownRelation owner
      | some (target, schema) =>
        match columnPairs? s owner target r with
        | none => .unknownColumns owner
        | some (columns, foreignColumns) =>
          .resolved
            { relation := owner.id
              name := r.name
              columns := columns
              foreignRelation := target.oid
              foreignSchema := schema.name
              foreignTable := target.name
              foreignColumns := foreignColumns }
  else .ignored

def standings (s : Snapshot) (relations : OrderedMap Int NormalizedRelation)
    (excluded : List String) : List (ConstraintRow × Standing) :=
  (ConstraintRow.inOrder s.rows.constraints).map fun r => (r, standing s relations excluded r)

def resolved? : ConstraintRow × Standing → Option ForeignKey
  | (_, .resolved k) => some k
  | _ => none

def ofSnapshot (s : Snapshot) (relations : OrderedMap Int NormalizedRelation)
    (excluded : List String) : List ForeignKey :=
  (standings s relations excluded).filterMap resolved?

def record? : ConstraintRow × Standing → Option Log.Record
  | (r, .unknownRelation owner) =>
    some (Log.Logger.constraints.debug <|
      s!"Skipping foreign key {r.name} on {owner.name}: " ++
        s!"referenced relation {r.foreignRelation} is not known")
  | (r, .unknownColumns owner) =>
    some (Log.Logger.constraints.debug
      s!"Skipping foreign key {r.name} on {owner.name}: unresolvable columns")
  | _ => none

end ForeignKey

end CatalogSchema
