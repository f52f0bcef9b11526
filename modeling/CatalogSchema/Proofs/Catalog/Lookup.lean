import CatalogSchema.Proofs.KeyedMap
import CatalogSchema.Relation.Normalized
import CatalogSchema.Typing.ImplicitCast

/-!
# Lookups as scans of the rows

What the lookups of a snapshot give, said without its index: each is the index of one collection of rows,
and the columns of a relation are its rows sorted by number (`attributes_eq`,
`isStableSort_liveAttributes`). `Snapshot.types` and `Snapshot.casts` name what is derived from the rows
alone. The index that is made of any rows agrees with scans of them (`lookups_are_scans`).
-/

namespace CatalogSchema

namespace CatalogRows

/-- The comment on a part of an object of a catalog; of several the last counts. -/
def comment? (rows : CatalogRows) (catalog object part : Int) : Option String :=
  (rows.descriptions.reverse.find? fun d =>
    d.catalog = catalog ∧ d.object = object ∧ d.part = part).map DescriptionRow.text

/-- The columns of a relation that are not dropped and are numbered from 1, in the order of the rows. -/
def liveAttributes (rows : CatalogRows) (relation : Int) : List AttributeRow :=
  rows.attributes.filter fun a => a.relation = relation ∧ a.dropped = false ∧ 0 < a.number

end CatalogRows

namespace Snapshot

/-- The scalar and array types of a snapshot. -/
def types (s : Snapshot) : Classification := .ofRows s.rows.types excludedTypeNames

/-- The implicit casts between the scalar types of a snapshot. -/
def casts (s : Snapshot) : List ImplicitCast :=
  ImplicitCast.ofRows s.rows.casts s.types ImplicitCast.excludedPairs

theorem namespace?_eq (s : Snapshot) (oid : Int) :
    s.namespace? oid = (OrderedMap.indexBy NamespaceRow.oid s.rows.namespaces).find? oid := by
  rw [namespace?, s.index_eq]
  rfl

theorem class?_eq (s : Snapshot) (oid : Int) :
    s.class? oid = (OrderedMap.indexBy ClassRow.oid s.rows.classes).find? oid := by
  rw [class?, s.index_eq]
  rfl

theorem aggregate?_eq (s : Snapshot) (proc : Int) :
    s.aggregate? proc = (OrderedMap.indexBy AggregateRow.proc s.rows.aggregates).find? proc := by
  rw [aggregate?, s.index_eq]
  rfl

theorem namespace?_some {s : Snapshot} {oid : Int} {n : NamespaceRow} (h : s.namespace? oid = some n) :
    n ∈ s.rows.namespaces ∧ n.oid = oid := by
  rw [namespace?_eq, OrderedMap.find?_indexBy] at h
  exact ⟨List.mem_reverse.1 (List.mem_of_find?_eq_some h), by simpa using List.find?_some h⟩

theorem class?_some {s : Snapshot} {oid : Int} {c : ClassRow} (h : s.class? oid = some c) :
    c ∈ s.rows.classes ∧ c.oid = oid := by
  rw [class?_eq, OrderedMap.find?_indexBy] at h
  exact ⟨List.mem_reverse.1 (List.mem_of_find?_eq_some h), by simpa using List.find?_some h⟩

/-- The comments as entries under catalog, object and part. -/
def comments (s : Snapshot) : List ((Int × Int × Int) × String) :=
  s.rows.descriptions.map fun d => ((d.catalog, d.object, d.part), d.text)

theorem description?_eq (s : Snapshot) (catalog object part : Int) :
    s.description? catalog object part =
      (OrderedMap.ofList s.comments).find? (catalog, object, part) := by
  rw [description?, s.index_eq]
  rfl

theorem description?_eq_comment? (s : Snapshot) (catalog object part : Int) :
    s.description? catalog object part = s.rows.comment? catalog object part := by
  rw [description?_eq, comments, OrderedMap.find?_ofList, ← List.map_reverse, List.find?_map,
    Option.map_map, CatalogRows.comment?]
  simp only [Function.comp_def, Prod.mk.injEq]

/-- A comment on a part of an object is looked up among the comments on the object. -/
theorem description?_eq_of_object (s : Snapshot) (catalog object part : Int) :
    s.description? catalog object part = (OrderedMap.ofList
      ((s.rows.descriptions.filter (·.object = object)).map fun d =>
        ((d.catalog, d.object, d.part), d.text))).find? (catalog, object, part) := by
  rw [description?_eq, comments, ← OrderedMap.find?_ofList_filter (p := fun e => e.1.2.1 = object),
    List.filter_map]
  · rfl
  · -- a comment under the key is on the object of the key
    intro e _ he
    rw [he]
    exact decide_eq_true rfl

theorem classCatalog_eq {s t : Snapshot} (h : t.rows.catalogs = s.rows.catalogs) :
    t.classCatalog = s.classCatalog := by
  have hs := s.keyOf_classCatalog
  rw [← h, t.keyOf_classCatalog] at hs
  exact Option.some.inj hs

/-- The columns of a relation are its rows in the order of their numbers. -/
theorem attributes_eq (s : Snapshot) (relation : Int) :
    s.attributes relation =
      sortOn AttributeRow.number (s.rows.attributes.filter (·.relation = relation)) := by
  rw [← OrderedMap.find?_groupBy, attributes, s.index_eq]
  show ((OrderedMap.mapValues _ _).find? relation).getD [] = _
  rw [OrderedMap.find?_mapValues]
  cases (OrderedMap.groupBy AttributeRow.relation s.rows.attributes).find? relation <;> rfl

theorem liveAttributes_eq (s : Snapshot) (c : ClassRow) :
    c.liveAttributes s =
      (sortOn AttributeRow.number (s.rows.attributes.filter (·.relation = c.oid))).filter
        AttributeRow.isLive := by
  rw [ClassRow.liveAttributes, attributes_eq]

/-- The live columns of a relation are its live rows, sorted by their numbers. -/
theorem isStableSort_liveAttributes (s : Snapshot) (c : ClassRow) :
    IsStableSort AttributeRow.number (s.rows.liveAttributes c.oid) (c.liveAttributes s) := by
  have hlive : (s.rows.attributes.filter (·.relation = c.oid)).filter AttributeRow.isLive =
      s.rows.liveAttributes c.oid := by
    unfold CatalogRows.liveAttributes
    rw [List.filter_filter]
    refine List.filter_congr fun a _ => ?_
    rw [Bool.and_comm]
    simp [AttributeRow.isLive]
  rw [liveAttributes_eq, sortOn, filter_sortBy, hlive]
  exact isStableSort_sortOn AttributeRow.number _

theorem relation_of_mem_liveAttributes {s : Snapshot} {c : ClassRow} {a : AttributeRow}
    (h : a ∈ c.liveAttributes s) : a.relation = c.oid := by
  rw [liveAttributes_eq] at h
  have hm := (List.mem_filter.1 (mem_sortBy.1 (List.mem_filter.1 h).1)).2
  exact of_decide_eq_true hm

/-! ## The index against the rows -/

/-- Every lookup finds in the rows what a plain scan of them finds: of the rows with an identifier the last
one, of the columns of a relation all, in the stable order of their numbers. -/
structure AgreesWithScans (s : Snapshot) (rows : CatalogRows) : Prop where
  classCatalog : ∃ before after,
    rows.catalogs.entries = before ++ (s.classCatalog, "pg_class") :: after ∧ ∀ e ∈ before, e.2 ≠ "pg_class"
  namespaces : ∀ oid, s.namespace? oid = (rows.namespaces.filter (·.oid = oid)).getLast?
  classes : ∀ oid, s.class? oid = (rows.classes.filter (·.oid = oid)).getLast?
  aggregates : ∀ proc, s.aggregate? proc = (rows.aggregates.filter (·.proc = proc)).getLast?
  attributes : ∀ relation columns, s.attributes relation = columns ↔
    IsStableSort AttributeRow.number (rows.attributes.filter (·.relation = relation)) columns
  descriptions : ∀ catalog object part, s.description? catalog object part =
    (rows.descriptions.filter fun d =>
      d.catalog = catalog ∧ d.object = object ∧ d.part = part).getLast?.map DescriptionRow.text

theorem attributes_eq_iff {s : Snapshot} {relation : Int} {columns : List AttributeRow} :
    s.attributes relation = columns ↔
      IsStableSort AttributeRow.number (s.rows.attributes.filter (·.relation = relation)) columns := by
  rw [attributes_eq, isStableSort_iff_eq_sortOn]
  exact eq_comm

theorem description?_eq_getLast? (s : Snapshot) (catalog object part : Int) :
    s.description? catalog object part = (s.rows.descriptions.filter fun d =>
      d.catalog = catalog ∧ d.object = object ∧ d.part = part).getLast?.map DescriptionRow.text := by
  rw [description?_eq_comment?, CatalogRows.comment?, ← List.head?_filter, List.filter_reverse,
    List.head?_reverse]

/-- Rows make a snapshot when some system catalog in them is that of relations, and the lookups of the
snapshot then agree with scans of the rows, however identifiers repeat and whatever order the rows are in. -/
theorem lookups_are_scans (rows : CatalogRows) :
    (ofRows? rows = none ↔ "pg_class" ∉ rows.catalogs.values) ∧
      ∀ s, ofRows? rows = some s → s.AgreesWithScans rows := by
  constructor
  · rw [ofRows?_eq_none_iff]
    exact OrderedMap.keyOf?_eq_none_iff
  · intro s hs
    obtain rfl : s.rows = rows := ofRows?_eq_some_iff.1 hs
    have hfirst := OrderedMap.keyOf?_eq_some_iff.1 s.keyOf_classCatalog
    refine ⟨hfirst, ?_, ?_, ?_, fun relation columns => attributes_eq_iff, s.description?_eq_getLast?⟩
    · intro oid
      rw [namespace?_eq, OrderedMap.find?_indexBy_eq_getLast?]
    · intro oid
      rw [class?_eq, OrderedMap.find?_indexBy_eq_getLast?]
    · intro proc
      rw [aggregate?_eq, OrderedMap.find?_indexBy_eq_getLast?]

end Snapshot

/-- Rows with repeated identifiers; the columns of two relations stand among each other, and two columns of
one relation have one number. -/
def CatalogRows.repeatedSample : CatalogRows where
  namespaces := [⟨11, "early"⟩, ⟨12, "other"⟩, ⟨11, "late"⟩]
  classes := [⟨7, "early", 11, "r"⟩, ⟨7, "late", 99, "r"⟩, ⟨8, "other", 12, "r"⟩]
  attributes :=
    [⟨7, "second", 2, 23, false, false, "", "", false⟩, ⟨8, "other", 1, 23, false, false, "", "", false⟩,
     ⟨7, "first", 1, 23, false, false, "", "", false⟩, ⟨7, "again", 2, 23, false, false, "", "", true⟩]
  types := []
  casts := []
  procs := []
  operators := []
  aggregates := [⟨5, 0⟩, ⟨5, 1⟩]
  constraints := []
  descriptions := [⟨7, 1259, 0, "early"⟩, ⟨7, 2600, 0, "other"⟩, ⟨7, 1259, 0, "late"⟩]
  catalogs := .ofList [(2600, "pg_aggregate"), (1259, "pg_class"), (3, "pg_class")]

/-- Of the rows with one identifier the last is found, and of the keys of one catalog the first. -/
theorem last_of_repeated_rows : ∃ s, Snapshot.ofRows? .repeatedSample = some s ∧
    s.namespace? 11 = some ⟨11, "late"⟩ ∧ s.class? 7 = some ⟨7, "late", 99, "r"⟩ ∧ s.namespace? 99 = none ∧
    s.aggregate? 5 = some ⟨5, 1⟩ ∧ (s.attributes 7).map AttributeRow.name = ["first", "second", "again"] ∧
    s.attributes 9 = [] ∧ s.description? 1259 7 0 = some "late" ∧ s.classCatalog = 1259 := by
  obtain ⟨hnone, hscans⟩ := Snapshot.lookups_are_scans .repeatedSample
  have hvalid : "pg_class" ∈ CatalogRows.repeatedSample.catalogs.values := by decide
  obtain ⟨s, hs⟩ := Option.ne_none_iff_exists'.1 fun h => hnone.1 h hvalid
  have h := hscans s hs
  have hcolumns := (h.attributes 7 _).2 (isStableSort_sortOn AttributeRow.number _)
  have hnoColumns := (h.attributes 9 _).2 (isStableSort_sortOn AttributeRow.number _)
  have hfirst : CatalogRows.repeatedSample.catalogs.keyOf? "pg_class" = some s.classCatalog :=
    OrderedMap.keyOf?_eq_some_iff.2 h.classCatalog
  refine ⟨s, hs, ?_, ?_, ?_, ?_, ?_, ?_, ?_, ?_⟩
  · rw [h.namespaces]
    decide
  · rw [h.classes]
    decide
  · rw [h.namespaces]
    decide
  · rw [h.aggregates]
    decide
  · rw [hcolumns]
    decide
  · rw [hnoColumns]
    decide
  · rw [h.descriptions]
    decide
  · exact Option.some.inj (hfirst.symm.trans (by decide))

end CatalogSchema
