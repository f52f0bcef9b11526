import CatalogSchema.Catalog.Row
import CatalogSchema.Json.Printer

/-!
# Snapshots of the catalog

A snapshot holds the rows of one consistent read together with an index over them. It exists only
when the rows say which catalog describes relations (`Snapshot.ofRows?`). Its lookups go through the
index; where an object identifier is repeated the last row counts.
-/

namespace CatalogSchema

open Decoder (field fieldOr record)

/-- The rows of one read; `catalogs` names the system catalogs by their identifiers. -/
structure CatalogRows where
  namespaces : List NamespaceRow
  classes : List ClassRow
  attributes : List AttributeRow
  types : List TypeRow
  casts : List CastRow
  procs : List ProcRow
  operators : List OperatorRow
  aggregates : List AggregateRow
  constraints : List ConstraintRow
  descriptions : List DescriptionRow
  catalogs : OrderedMap Int String
  deriving DecidableEq, Repr

structure CatalogIndex where
  namespaces : OrderedMap Int NamespaceRow
  classes : OrderedMap Int ClassRow
  aggregates : OrderedMap Int AggregateRow
  /-- The columns of each relation, by their numbers. -/
  attributes : OrderedMap Int (List AttributeRow)
  /-- Comments by catalog, object and part. -/
  descriptions : OrderedMap (Int × Int × Int) String
  deriving DecidableEq, Repr

def CatalogIndex.ofRows (rows : CatalogRows) : CatalogIndex where
  namespaces := .indexBy NamespaceRow.oid rows.namespaces
  classes := .indexBy ClassRow.oid rows.classes
  aggregates := .indexBy AggregateRow.proc rows.aggregates
  attributes := (OrderedMap.groupBy AttributeRow.relation rows.attributes).mapValues
    (sortOn AttributeRow.number)
  descriptions := .ofList (rows.descriptions.map fun d => ((d.catalog, d.object, d.part), d.text))

/-- The name of the catalog of relations. -/
def classCatalogName : String := "pg_class"

structure Snapshot where
  rows : CatalogRows
  /-- The identifier of the catalog of relations. -/
  classCatalog : Int
  index : CatalogIndex
  keyOf_classCatalog : rows.catalogs.keyOf? classCatalogName = some classCatalog
  index_eq : index = .ofRows rows

namespace Snapshot

def ofRows? (rows : CatalogRows) : Option Snapshot :=
  match h : rows.catalogs.keyOf? classCatalogName with
  | some oid => some ⟨rows, oid, .ofRows rows, h, rfl⟩
  | none => none

@[ext] theorem ext {s t : Snapshot} (h : s.rows = t.rows) : s = t := by
  obtain ⟨rs, c, i, hc, hi⟩ := s
  obtain ⟨rt, d, j, hd, hj⟩ := t
  cases h
  cases hi
  cases hj
  cases Option.some.inj (hc.symm.trans hd)
  rfl

theorem ofRows?_rows (s : Snapshot) : ofRows? s.rows = some s := by
  unfold ofRows?
  split
  · exact congrArg some (ext rfl)
  · rename_i h
    simp [s.keyOf_classCatalog] at h

theorem ofRows?_eq_some_iff {rows : CatalogRows} {s : Snapshot} : ofRows? rows = some s ↔ s.rows = rows := by
  constructor
  · intro h
    unfold ofRows? at h
    split at h
    · cases h
      rfl
    · cases h
  · rintro rfl
    exact s.ofRows?_rows

/-- Rows that name no catalog of relations make no snapshot. -/
theorem ofRows?_eq_none_iff {rows : CatalogRows} :
    ofRows? rows = none ↔ rows.catalogs.keyOf? classCatalogName = none := by
  unfold ofRows?
  split
  · next oid h => simp [h]
  · next h => simp [h]

/-! ## Lookups -/

def namespace? (s : Snapshot) (oid : Int) : Option NamespaceRow := s.index.namespaces.find? oid

def class? (s : Snapshot) (oid : Int) : Option ClassRow := s.index.classes.find? oid

/-- The aggregate binding of a procedure. -/
def aggregate? (s : Snapshot) (proc : Int) : Option AggregateRow := s.index.aggregates.find? proc

/-- The columns of a relation by their numbers, system and dropped ones included. -/
def attributes (s : Snapshot) (relation : Int) : List AttributeRow :=
  (s.index.attributes.find? relation).getD []

def description? (s : Snapshot) (catalog object part : Int) : Option String :=
  s.index.descriptions.find? (catalog, object, part)

/-- The comment on a relation. -/
def classDescription? (s : Snapshot) (c : ClassRow) : Option String :=
  s.description? s.classCatalog c.oid 0

/-- The comment on a column. -/
def attributeDescription? (s : Snapshot) (a : AttributeRow) : Option String :=
  s.description? s.classCatalog a.relation a.number

def classNamespace? (s : Snapshot) (c : ClassRow) : Option NamespaceRow := s.namespace? c.schema

/-- The relation that a foreign key refers to. -/
def foreignClass? (s : Snapshot) (c : ConstraintRow) : Option ClassRow := s.class? c.foreignRelation

/-! ## Reading and writing -/

def modelName : String := "CatalogSnapshot"

def noClassCatalog : Problem :=
  .refused "Invalid introspection results; could not determine the ids of the system catalogs"

/-- The rows of a document. The identifier of the catalog of relations may be present; it is checked
to be an integer or null and not used. -/
def decodeRows : Decoder CatalogRows := record fun ms =>
  (fun a b c d e f g h i j k _ => CatalogRows.mk a b c d e f g h i j k)
    <$> fieldOr (.plain "namespaces") (.list NamespaceRow.decode) [] ms
    <*> fieldOr (.plain "classes") (.list ClassRow.decode) [] ms
    <*> fieldOr (.plain "attributes") (.list AttributeRow.decode) [] ms
    <*> fieldOr (.plain "types") (.list TypeRow.decode) [] ms
    <*> fieldOr (.plain "casts") (.list CastRow.decode) [] ms
    <*> fieldOr (.plain "procs") (.list ProcRow.decode) [] ms
    <*> fieldOr (.plain "operators") (.list OperatorRow.decode) [] ms
    <*> fieldOr (.plain "aggregates") (.list AggregateRow.decode) [] ms
    <*> fieldOr (.plain "constraints") (.list ConstraintRow.decode) [] ms
    <*> fieldOr (.plain "descriptions") (.list DescriptionRow.decode) [] ms
    <*> field (.plain "catalog_by_oid") (.integerMapping .text) ms
    <*> fieldOr (.plain "PG_CLASS") (.nullable .int) none ms

def decode : Decoder Snapshot := fun j =>
  (decodeRows j).andThen fun rows =>
    match ofRows? rows with
    | some s => .ok s
    | none => .fail noClassCatalog

def encode (s : Snapshot) : Json :=
  .obj
    [("namespaces", .arr (s.rows.namespaces.map NamespaceRow.encode)),
     ("classes", .arr (s.rows.classes.map ClassRow.encode)),
     ("attributes", .arr (s.rows.attributes.map AttributeRow.encode)),
     ("types", .arr (s.rows.types.map TypeRow.encode)),
     ("casts", .arr (s.rows.casts.map CastRow.encode)),
     ("procs", .arr (s.rows.procs.map ProcRow.encode)),
     ("operators", .arr (s.rows.operators.map OperatorRow.encode)),
     ("aggregates", .arr (s.rows.aggregates.map AggregateRow.encode)),
     ("constraints", .arr (s.rows.constraints.map ConstraintRow.encode)),
     ("descriptions", .arr (s.rows.descriptions.map DescriptionRow.encode)),
     ("catalog_by_oid", .obj (s.rows.catalogs.entries.map fun e =>
       (String.ofList (Json.renderInt e.1), .str e.2))),
     ("PG_CLASS", .int s.classCatalog)]

def parse (text : String) : Checked Snapshot := Decoder.ofText decode text

end Snapshot

end CatalogSchema
