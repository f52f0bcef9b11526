import CatalogSchema.Proofs.Schema.Tables
import Mathlib.Data.List.Perm.Basic

/-!
# One table for each exposed name

Relations that would be exposed by one name are rivals for it. Assembly keeps the first of the least rivals
by name and schema (`find?_tables_eq_some_iff_isFirst`), and the table that it makes of a relation depends on
the relation and its own constraints alone (`Table.Shows`). So there is one table for each name that is
exposed, and one for each relation where no two have the same (`one_table_per_exposed_name`).
-/

namespace CatalogSchema

/-! ## What a table says about a relation -/

/-- The table has the columns of the relation and the constraints that are the relation's own; where some of
them share a name the last one counts. -/
structure Table.Shows (t : Table) (r : NormalizedRelation) (uniqueness : List UniquenessConstraint)
    (foreignKeys : List ForeignKey) : Prop where
  schema : t.schema = r.schemaName
  name : t.name = r.name
  description : t.description = r.description
  columns : ∀ n, t.columns.find? n = (r.columns.filter (·.info.name = n)).getLast?.map (·.info)
  uniqueness : ∀ n, t.uniqueness.find? n =
    (uniqueness.filter fun c => c.relation = r.id ∧ c.name = n).getLast?.map (·.columns)
  foreignRelations : ∀ n, t.foreignRelations.find? n =
    (foreignKeys.filter fun k => k.relation = r.id ∧ k.name = n).getLast?.map ForeignKey.toRelation

section Assembled

variable (uniqueness : List UniquenessConstraint) (foreignKeys : List ForeignKey)

namespace NormalizedRelation

/-- The table that assembly makes of a relation. -/
def assembled (r : NormalizedRelation) : Table where
  schema := r.schemaName
  name := r.name
  description := r.description
  columns := r.columnMap
  uniqueness := (((OrderedMap.nest (uniqueness.map UniquenessConstraint.entry)).find? r.id).getD
    .empty).sortByKey
  foreignRelations := (((OrderedMap.nest (foreignKeys.map ForeignKey.entry)).find? r.id).getD
    .empty).sortByKey

/-- Of columns with one name the last counts, as sorting by name leaves them in their order. -/
theorem find?_columnMap (r : NormalizedRelation) (n : String) :
    r.columnMap.find? n = (r.columns.filter (·.info.name = n)).getLast?.map (·.info) := by
  have hstable : (sortOn (·.info.name) r.columns).filter (·.info.name = n) =
      r.columns.filter (·.info.name = n) := (isStableSort_sortOn _ r.columns).stable n
  rw [columnMap, OrderedMap.find?_ofList_eq_getLast?, List.filter_map, List.getLast?_map, Option.map_map,
    ← hstable]
  rfl

theorem shows_assembled (r : NormalizedRelation) :
    (r.assembled uniqueness foreignKeys).Shows r uniqueness foreignKeys where
  schema := rfl
  name := rfl
  description := rfl
  columns := r.find?_columnMap
  uniqueness n := by
    rw [assembled, OrderedMap.find?_sortByKey]
    exact OrderedMap.find?_nest_map _ _ _ uniqueness r.id n
  foreignRelations n := by
    rw [assembled, OrderedMap.find?_sortByKey]
    exact OrderedMap.find?_nest_map _ _ _ foreignKeys r.id n

end NormalizedRelation

/-! ## Who gets a name -/

namespace TableBids

variable (relations : List NormalizedRelation) (unqualified : List String)

theorem entries_tables_perm :
    ((ofRelations relations unqualified).tables uniqueness foreignKeys).entries.Perm
      ((tableWinners relations unqualified).map fun r =>
        (r.exposedName unqualified, r.assembled uniqueness foreignKeys)) := by
  have hnodup : (((tableWinners relations unqualified).map fun r =>
      (r.exposedName unqualified, r.assembled uniqueness foreignKeys)).map Prod.fst).Nodup := by
    rw [List.map_map]
    exact nodup_tableWinners relations unqualified
  refine (OrderedMap.entries_sortByKey_perm _).trans (.of_eq ?_)
  exact OrderedMap.entries_foldl_insert hnodup

/-- Under a name stands the table of the first of the least relations that would be exposed by it. -/
theorem find?_tables_eq_some_iff_isFirst {name : String} {t : Table} :
    ((ofRelations relations unqualified).tables uniqueness foreignKeys).find? name = some t ↔
      ∃ r, IsFirst (byTwo NormalizedRelation.name NormalizedRelation.schemaName) r
          (relations.filter (·.exposedName unqualified = name)) ∧
        t = r.assembled uniqueness foreignKeys := by
  have hwinner (r : NormalizedRelation) :
      r ∈ tableWinners relations unqualified ∧ r.exposedName unqualified = name ↔
        IsFirst (byTwo NormalizedRelation.name NormalizedRelation.schemaName) r
          (relations.filter (·.exposedName unqualified = name)) := by
    rw [← find?_key_eq_some_iff (nodup_tableWinners relations unqualified),
      ← find?_sortBy_eq_some_iff, tableWinners, ofRelations, Bid.find?_winners_settle]
    simp
  rw [OrderedMap.find?_eq_some_iff, (entries_tables_perm ..).mem_iff, List.mem_map]
  simp only [← hwinner, Prod.mk.injEq, and_assoc, eq_comm (a := t)]

theorem mem_keys_tables_iff {name : String} :
    name ∈ ((ofRelations relations unqualified).tables uniqueness foreignKeys).keys ↔
      ∃ r ∈ relations, r.exposedName unqualified = name := by
  rw [← OrderedMap.isSome_find?_iff, Option.isSome_iff_exists]
  simp only [find?_tables_eq_some_iff_isFirst]
  constructor
  · rintro ⟨t, r, hr, -⟩
    obtain ⟨hm, hname⟩ := List.mem_filter.1 hr.mem
    exact ⟨r, hm, of_decide_eq_true hname⟩
  · rintro ⟨r, hr, hname⟩
    have hne : relations.filter (·.exposedName unqualified = name) ≠ [] :=
      List.ne_nil_of_mem (List.mem_filter.2 ⟨hr, decide_eq_true hname⟩)
    obtain ⟨q, hq⟩ := exists_isFirst (byTwo NormalizedRelation.name NormalizedRelation.schemaName) hne
    exact ⟨_, q, hq, rfl⟩

/-- Where no two relations would be exposed by one name, each of them has its table. -/
theorem entries_tables_perm_of_nodup {relations : List NormalizedRelation} {unqualified : List String}
    (h : (relations.map (·.exposedName unqualified)).Nodup) :
    ((ofRelations relations unqualified).tables uniqueness foreignKeys).entries.Perm
      (relations.map fun r => (r.exposedName unqualified, r.assembled uniqueness foreignKeys)) := by
  let sorted := sortBy (byTwo NormalizedRelation.name NormalizedRelation.schemaName) relations
  have hsorted : sorted.Perm relations := perm_sortBy _ _
  have hall : tableWinners relations unqualified = sorted :=
    Bid.winners_settle_of_nodup (((hsorted.map _).nodup_iff).2 h)
  refine (entries_tables_perm ..).trans ?_
  rw [hall]
  exact hsorted.map _

end TableBids

end Assembled

/-- Relations of unqualified schemas are exposed by their own names. -/
theorem NormalizedRelation.nodup_exposedName {relations : List NormalizedRelation} {unqualified : List String}
    (h : (relations.map name).Nodup) (hu : ∀ r ∈ relations, r.schemaName ∈ unqualified) :
    (relations.map (·.exposedName unqualified)).Nodup := by
  have hbare : relations.map (·.exposedName unqualified) = relations.map name :=
    List.map_congr_left fun r hr => if_pos (hu r hr)
  rwa [hbare]

/-- There is one table for each name by which a relation would be exposed, and it shows the first of the
least of these relations with its own constraints. Where no two names are the same the tables are one to one
with the relations, as they are for relations of unqualified schemas with distinct names. -/
theorem one_table_per_exposed_name (relations : OrderedMap Int NormalizedRelation)
    (uniqueness : List UniquenessConstraint) (foreignKeys : List ForeignKey) (unqualified : List String) :
    let tables := (TableBids.ofRelations relations.values unqualified).tables uniqueness foreignKeys
    let names := relations.values.map (·.exposedName unqualified)
    (∀ name, name ∈ tables.keys ↔ name ∈ names) ∧
    (∀ name t, tables.find? name = some t →
      ∃ r, IsFirst (byTwo NormalizedRelation.name NormalizedRelation.schemaName) r
          (relations.values.filter (·.exposedName unqualified = name)) ∧
        t.Shows r uniqueness foreignKeys) ∧
    (names.Nodup → ∃ rs, rs.Perm relations.values ∧
      List.Forall₂ (fun e r => e.1 = r.exposedName unqualified ∧ e.2.Shows r uniqueness foreignKeys)
        tables.entries rs) ∧
    ((relations.values.map NormalizedRelation.name).Nodup →
      (∀ r ∈ relations.values, r.schemaName ∈ unqualified) → names.Nodup) := by
  intro tables names
  refine ⟨fun name => ?_, fun name t ht => ?_, fun hnames => ?_, NormalizedRelation.nodup_exposedName⟩
  · rw [TableBids.mem_keys_tables_iff, List.mem_map]
  · obtain ⟨r, hr, rfl⟩ := (TableBids.find?_tables_eq_some_iff_isFirst ..).1 ht
    exact ⟨r, hr, r.shows_assembled uniqueness foreignKeys⟩
  · have hshown : List.Forall₂ (fun (e : String × Table) r =>
        e.1 = r.exposedName unqualified ∧ e.2.Shows r uniqueness foreignKeys)
        (relations.values.map fun r => (r.exposedName unqualified, r.assembled uniqueness foreignKeys))
        relations.values :=
      List.forall₂_map_left_iff.2
        (List.forall₂_same.2 fun r _ => ⟨rfl, r.shows_assembled uniqueness foreignKeys⟩)
    obtain ⟨rs, hrs, hperm⟩ :=
      List.perm_comp_forall₂ (TableBids.entries_tables_perm_of_nodup uniqueness foreignKeys hnames) hshown
    exact ⟨rs, hperm, hrs⟩

/-- A relation with one column and no description. -/
def NormalizedRelation.oneColumn (id : Int) (schema name column : String) : NormalizedRelation :=
  ⟨id, 2200, schema, name, "r", none,
    [⟨1, ⟨column, .scalar "int4", true, .noDefault, .notIdentity, .notGenerated, none⟩⟩]⟩

/-- Three relations that are exposed as `a_b_c` when only `public` is unqualified. -/
def rivalSample : OrderedMap Int NormalizedRelation :=
  .ofList [(1, .oneColumn 1 "a_b" "c" "x"), (2, .oneColumn 2 "a" "b_c" "y"),
    (3, .oneColumn 3 "public" "a_b_c" "z")]

/-- Of the three relations that of `public` gets the name, with the last of its own keys; where all their
schemas are unqualified there are three tables. -/
theorem rivals_for_a_b_c :
    let keys : List UniquenessConstraint := [⟨3, "key", ["y"]⟩, ⟨1, "c_key", ["x"]⟩, ⟨3, "key", ["z"]⟩]
    (∃ t, ((TableBids.ofRelations rivalSample.values ["public"]).tables keys []).find? "a_b_c" = some t ∧
      t.schema = "public" ∧ t.uniqueness.find? "key" = some ["z"] ∧ t.uniqueness.find? "c_key" = none) ∧
    (rivalSample.values.map NormalizedRelation.name).Nodup ∧
      (∀ r ∈ rivalSample.values, r.schemaName ∈ ["public", "a", "a_b"]) ∧
      ((TableBids.ofRelations rivalSample.values ["public", "a", "a_b"]).tables keys []).size = 3 := by
  intro keys
  obtain ⟨hkeys, hfirst, -⟩ := one_table_per_exposed_name rivalSample keys [] ["public"]
  obtain ⟨-, -, hbijection, hdistinct⟩ :=
    one_table_per_exposed_name rivalSample keys [] ["public", "a", "a_b"]
  have hnames : (rivalSample.values.map NormalizedRelation.name).Nodup := by decide +kernel
  have hschemas : ∀ r ∈ rivalSample.values, r.schemaName ∈ ["public", "a", "a_b"] := by decide +kernel
  refine ⟨?_, hnames, hschemas, ?_⟩
  · obtain ⟨t, ht⟩ := Option.isSome_iff_exists.1
      (OrderedMap.isSome_find?_iff.2 ((hkeys "a_b_c").2 (by decide +kernel)))
    obtain ⟨r, hr, hshows⟩ := hfirst "a_b_c" t ht
    have hleast : IsFirst (byTwo NormalizedRelation.name NormalizedRelation.schemaName)
        (.oneColumn 3 "public" "a_b_c" "z")
        (rivalSample.values.filter (·.exposedName ["public"] = "a_b_c")) :=
      ⟨[.oneColumn 1 "a_b" "c" "x", .oneColumn 2 "a" "b_c" "y"], [], by decide +kernel⟩
    obtain rfl := hr.unique hleast
    refine ⟨t, ht, hshows.schema, ?_, ?_⟩
    · rw [hshows.uniqueness]
      decide
    · rw [hshows.uniqueness]
      decide
  · obtain ⟨rs, hperm, hshown⟩ := hbijection (hdistinct hnames hschemas)
    exact hshown.length_eq.trans hperm.length_eq

end CatalogSchema
