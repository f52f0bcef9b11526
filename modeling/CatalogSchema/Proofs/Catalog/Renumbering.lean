import CatalogSchema.Proofs.KeyedMap
import CatalogSchema.Catalog.Snapshot

/-!
# Renumbered catalogs

Dumping a database and restoring it gives every object a new identifier. A `Renumbering` is such a change:
injective, and with 0, which stands for no object, left as it is. Every row, and with it the whole
snapshot, can be renumbered; ordinals of columns and the order of the rows stay.
-/

namespace CatalogSchema

/-- A change of identifiers that keeps them apart; 0 stands for none. -/
structure Renumbering where
  toFun : Int → Int
  injective : Function.Injective toFun
  map_zero : toFun 0 = 0

namespace Renumbering

instance : CoeFun Renumbering fun _ => Int → Int := ⟨toFun⟩

/-- Every identifier as it is. -/
def refl : Renumbering := ⟨id, fun _ _ h => h, rfl⟩

@[simp] theorem refl_apply (id : Int) : refl id = id := rfl

/-- Two objects with each other's identifiers. -/
def swap (a b : Int) (ha : a ≠ 0) (hb : b ≠ 0) : Renumbering where
  toFun id := if id = a then b else if id = b then a else id
  injective id id' h := by grind
  map_zero := by grind

/-- Whether the new identifiers of `ids` are in the same order as the old ones. -/
def AscendsOn (f : Renumbering) (ids : List Int) : Prop := ∀ a ∈ ids, ∀ b ∈ ids, a < b → f a < f b

variable (f : Renumbering)

theorem inj {a b : Int} : f a = f b ↔ a = b := f.injective.eq_iff

theorem eq_zero_iff {a : Int} : f a = 0 ↔ a = 0 :=
  ⟨fun h => f.inj.1 (h.trans f.map_zero.symm), fun h => h ▸ f.map_zero⟩

theorem AscendsOn.compare_eq {f : Renumbering} {ids : List Int} (h : f.AscendsOn ids) {a b : Int}
    (ha : a ∈ ids) (hb : b ∈ ids) : compare (f a) (f b) = compare a b := by
  rcases Int.lt_trichotomy a b with hlt | rfl | hlt
  · rw [Std.compare_eq_lt.2 hlt, Std.compare_eq_lt.2 (h a ha b hb hlt)]
  · rw [Std.ReflOrd.compare_self, Std.ReflOrd.compare_self]
  · rw [Std.compare_eq_gt.2 hlt, Std.compare_eq_gt.2 (h b hb a ha hlt)]

end Renumbering

variable (f : Renumbering)

def NamespaceRow.renumber (r : NamespaceRow) : NamespaceRow := { r with oid := f r.oid }

def ClassRow.renumber (r : ClassRow) : ClassRow := { r with oid := f r.oid, schema := f r.schema }

def AttributeRow.renumber (r : AttributeRow) : AttributeRow :=
  { r with relation := f r.relation, type := f r.type }

def TypeRow.renumber (r : TypeRow) : TypeRow :=
  { r with oid := f r.oid, schema := f r.schema, element := f r.element }

def CastRow.renumber (r : CastRow) : CastRow := { r with source := f r.source, target := f r.target }

def ProcRow.renumber (r : ProcRow) : ProcRow :=
  { r with
    oid := f r.oid
    schema := f r.schema
    returnType := f r.returnType
    argumentTypes := r.argumentTypes.map f
    variadic := f r.variadic }

def OperatorRow.renumber (r : OperatorRow) : OperatorRow :=
  { r with oid := f r.oid, left := f r.left, right := f r.right, result := f r.result }

def AggregateRow.renumber (r : AggregateRow) : AggregateRow := { r with proc := f r.proc }

def ConstraintRow.renumber (r : ConstraintRow) : ConstraintRow :=
  { r with oid := f r.oid, relation := f r.relation, foreignRelation := f r.foreignRelation }

def DescriptionRow.renumber (r : DescriptionRow) : DescriptionRow :=
  { r with object := f r.object, catalog := f r.catalog }

@[simp] theorem NamespaceRow.renumber_refl : NamespaceRow.renumber .refl = id := rfl

@[simp] theorem ClassRow.renumber_refl : ClassRow.renumber .refl = id := rfl

@[simp] theorem AttributeRow.renumber_refl : AttributeRow.renumber .refl = id := rfl

@[simp] theorem CastRow.renumber_refl : CastRow.renumber .refl = id := rfl

@[simp] theorem ProcRow.renumber_refl : ProcRow.renumber .refl = id := by
  funext r
  show { r with argumentTypes := r.argumentTypes.map id } = r
  rw [List.map_id]

@[simp] theorem OperatorRow.renumber_refl : OperatorRow.renumber .refl = id := rfl

@[simp] theorem AggregateRow.renumber_refl : AggregateRow.renumber .refl = id := rfl

@[simp] theorem ConstraintRow.renumber_refl : ConstraintRow.renumber .refl = id := rfl

/-- A map with its keys renumbered, its entries in the same order. -/
def OrderedMap.renumberKeys {ν : Type} (m : OrderedMap Int ν) : OrderedMap Int ν where
  entries := m.entries.map (Prod.map f id)
  nodup := by
    have h := m.nodup.map f.injective
    simpa [List.map_map, Function.comp_def] using h

def CatalogRows.renumber (r : CatalogRows) : CatalogRows where
  namespaces := r.namespaces.map (NamespaceRow.renumber f)
  classes := r.classes.map (ClassRow.renumber f)
  attributes := r.attributes.map (AttributeRow.renumber f)
  types := r.types.map (TypeRow.renumber f)
  casts := r.casts.map (CastRow.renumber f)
  procs := r.procs.map (ProcRow.renumber f)
  operators := r.operators.map (OperatorRow.renumber f)
  aggregates := r.aggregates.map (AggregateRow.renumber f)
  constraints := r.constraints.map (ConstraintRow.renumber f)
  descriptions := r.descriptions.map (DescriptionRow.renumber f)
  catalogs := r.catalogs.renumberKeys f

/-- The identifiers of namespaces that occur in the rows. -/
def CatalogRows.namespaceIds (r : CatalogRows) : List Int :=
  r.namespaces.map NamespaceRow.oid ++ r.classes.map ClassRow.schema

theorem OrderedMap.keyOf?_renumberKeys {ν : Type} [DecidableEq ν] (m : OrderedMap Int ν) (v : ν) :
    (m.renumberKeys f).keyOf? v = (m.keyOf? v).map f := by
  unfold keyOf? renumberKeys
  rw [List.find?_map, Option.map_map, Option.map_map]
  rfl

/-- The snapshot of the renumbered rows. -/
def Snapshot.renumber (s : Snapshot) : Snapshot where
  rows := s.rows.renumber f
  classCatalog := f s.classCatalog
  index := .ofRows (s.rows.renumber f)
  keyOf_classCatalog := by
    rw [CatalogRows.renumber, OrderedMap.keyOf?_renumberKeys, s.keyOf_classCatalog]
    rfl
  index_eq := rfl

end CatalogSchema
