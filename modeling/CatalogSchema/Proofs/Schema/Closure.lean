import CatalogSchema.Proofs.Constraint.ForeignKeys

/-!
# Closure of references

What a table says about columns is about columns that exist. Within a table this holds by itself
(`Table.IsClosed`): constraints and foreign keys name columns of the table they stand in. The columns that a
foreign key refers to are looked up among the live columns of the snapshot, and a normalized relation has
all of these (`ClassRow.columns_of_standing`); so they are columns of the exposed table, where the relation
referred to is one. `references_resolve` puts this together.
-/

namespace CatalogSchema

/-! ## Names by number -/

namespace NormalizedRelation

theorem mem_keys_columnMap {r : NormalizedRelation} {name : String} :
    name ∈ r.columnMap.keys ↔ ∃ c ∈ r.columns, c.info.name = name := by
  rw [columnMap, OrderedMap.mem_keys_ofList, List.map_map, List.mem_map]
  exact exists_congr fun c => and_congr_left' mem_sortBy

/-- In the columns of a table each stands under its own name. -/
theorem name_of_mem_columnMap {r : NormalizedRelation} {e : String × Column}
    (h : e ∈ r.columnMap.entries) : e.2.name = e.1 := by
  obtain ⟨c, -, rfl⟩ := List.mem_map.1 (OrderedMap.mem_of_mem_entries_ofList h)
  rfl

theorem keys_columnMap_ne_nil {r : NormalizedRelation} (h : r.columns ≠ []) :
    r.columnMap.keys ≠ [] := by
  obtain ⟨c, hc⟩ := List.exists_mem_of_ne_nil _ h
  exact List.ne_nil_of_mem (mem_keys_columnMap.2 ⟨c, hc, rfl⟩)

theorem mem_keys_of_columnNames? {r : NormalizedRelation} {numbers : List Int} {names : List String}
    (h : r.columnNames? numbers = some names) {name : String} (hn : name ∈ names) :
    name ∈ r.columnMap.keys := by
  obtain ⟨number, -, hname⟩ := exists_of_mem_mapM h hn
  obtain ⟨c, hc, rfl⟩ := Option.map_eq_some_iff.1 hname
  exact mem_keys_columnMap.2 ⟨c, List.mem_of_find?_eq_some hc, rfl⟩

end NormalizedRelation

/-- The names that numbers stand for in the snapshot are those of live columns. -/
theorem Snapshot.exists_of_mem_liveColumnNames? {s : Snapshot} {c : ClassRow} {numbers : List Int}
    {names : List String} (h : s.liveColumnNames? c numbers = some names) {name : String}
    (hn : name ∈ names) : ∃ a ∈ c.liveAttributes s, a.name = name := by
  obtain ⟨number, -, hname⟩ := exists_of_mem_mapM h hn
  have hm := OrderedMap.mem_of_mem_entries_ofList (OrderedMap.find?_eq_some_iff.1 hname)
  obtain ⟨a, ha, he⟩ := List.mem_map.1 hm
  exact ⟨a, ha, (Prod.mk.inj he).2⟩

/-! ## Foreign keys -/

theorem ForeignKey.of_listed? {s : Snapshot} {excluded : List String} {owner : NormalizedRelation}
    {r : ConstraintRow} {e : String × ForeignRelation} (h : listed? s excluded owner r = some e) :
    ∃ c n columns foreignColumns, target? s excluded r = some (c, n) ∧
      owner.columnNames? (r.key.getD []) = some columns ∧
      s.liveColumnNames? c (r.foreignKey.getD []) = some foreignColumns ∧
      columns ≠ [] ∧ columns.length = foreignColumns.length ∧
      e.2 = ⟨n.name, c.name, .ofList (columns.zip foreignColumns)⟩ := by
  obtain ⟨-, c, n, columns, foreignColumns, htarget, hpairs, hrelation⟩ := pairs_of_listed? h
  obtain ⟨hcolumns, hforeign, hne, hlen⟩ := columnPairs?_eq_some_iff.1 hpairs
  exact ⟨c, n, columns, foreignColumns, htarget, hcolumns, hforeign, hne, hlen, hrelation⟩

/-- The keys of a mapping that is made of two lists are members of the first. -/
theorem mem_left_of_mem_keys_zip {xs ys : List String} {x : String}
    (h : x ∈ (OrderedMap.ofList (xs.zip ys)).keys) : x ∈ xs := by
  obtain ⟨⟨y, z⟩, hm, rfl⟩ := List.mem_map.1 (OrderedMap.mem_keys_ofList.1 h)
  exact (List.of_mem_zip hm).1

theorem mem_right_of_mem_values_zip {xs ys : List String} {y : String}
    (h : y ∈ (OrderedMap.ofList (xs.zip ys)).values) : y ∈ ys := by
  obtain ⟨⟨x, z⟩, hm, rfl⟩ := List.mem_map.1 h
  exact (List.of_mem_zip (OrderedMap.mem_of_mem_entries_ofList hm)).2

theorem keys_zip_ne_nil {xs ys : List String} (hx : xs ≠ []) (h : xs.length = ys.length) :
    (OrderedMap.ofList (xs.zip ys)).keys ≠ [] := by
  rw [OrderedMap.keys_zip h]
  cases xs with
  | nil => exact absurd rfl hx
  | cons x xs =>
    rw [List.eraseDups_cons]
    exact List.cons_ne_nil x _

/-! ## Closed tables -/

/-- What the table says about columns of its own is about columns that it has. -/
structure Table.IsClosed (t : Table) : Prop where
  named : ∀ e ∈ t.columns.entries, e.2.name = e.1
  columns_ne_nil : t.columns.keys ≠ []
  uniqueness : ∀ columns ∈ t.uniqueness.values,
    columns ≠ [] ∧ ∀ name ∈ columns, name ∈ t.columns.keys
  foreignRelations : ∀ k ∈ t.foreignRelations.values,
    k.columns.keys ≠ [] ∧ ∀ name ∈ k.columns.keys, name ∈ t.columns.keys

/-- A table of the schema is that of a normalized relation. -/
theorem exists_of_mem_tables {s : Snapshot} {o : Options} {t : Table}
    (h : t ∈ (buildSchema s o).tables.values) :
    ∃ r ∈ (s.relations o.excludedSchemas).values, t = r.table s o.excludedSchemas := by
  rw [tables_buildSchema] at h
  obtain ⟨e, he, rfl⟩ := OrderedMap.mem_values_sortByKey_ofList h
  obtain ⟨r, hr, rfl⟩ := List.mem_map.1 he
  exact ⟨r, mem_of_mem_tableWinners hr, rfl⟩

/-- A foreign key of a table is what one of the constraints of its relation stands for. -/
theorem NormalizedRelation.exists_of_mem_foreignRelations {s : Snapshot} {excluded : List String}
    {r : NormalizedRelation} {k : ForeignRelation}
    (h : k ∈ (r.table s excluded).foreignRelations.values) :
    ∃ row name, ForeignKey.listed? s excluded r row = some (name, k) := by
  obtain ⟨⟨name, k⟩, he, rfl⟩ := OrderedMap.mem_values_sortByKey_ofList h
  obtain ⟨row, -, hrow⟩ := List.mem_filterMap.1 he
  exact ⟨row, name, hrow⟩

theorem NormalizedRelation.isClosed_table {s : Snapshot} {excluded : List String}
    {r : NormalizedRelation} (hr : r.columns ≠ []) : (r.table s excluded).IsClosed where
  named _ := name_of_mem_columnMap
  columns_ne_nil := keys_columnMap_ne_nil hr
  uniqueness columns hu := by
    obtain ⟨e, he, rfl⟩ := OrderedMap.mem_values_sortByKey_ofList hu
    obtain ⟨row, -, hrow⟩ := List.mem_filterMap.1 he
    obtain ⟨-, -, hkey, hnames⟩ := UniquenessConstraint.listed?_eq_some_iff.1 hrow
    have hlen : e.2.length = (row.key.getD []).length := length_of_mapM hnames
    exact ⟨ne_nil_of_length_eq hlen.symm hkey, fun name hn => mem_keys_of_columnNames? hnames hn⟩
  foreignRelations k hk := by
    obtain ⟨row, name, hrow⟩ := exists_of_mem_foreignRelations hk
    obtain ⟨c, n, columns, foreignColumns, -, hcolumns, -, hne, hlen, rfl⟩ :=
      ForeignKey.of_listed? hrow
    exact ⟨keys_zip_ne_nil hne hlen, fun name hn =>
      mem_keys_of_columnNames? hcolumns (mem_left_of_mem_keys_zip hn)⟩

/-! ## The far end of a foreign key -/

/-- Where the names of namespaces, and those of the relations in each, are distinct, the relation that a
foreign key refers to is the one whose table goes by its schema and name. -/
theorem ForeignKey.target_eq {s : Snapshot} {excluded : List String}
    (hn : (s.rows.namespaces.map NamespaceRow.name).Nodup)
    (hc : (s.rows.classes.map fun c => (c.schema, c.name)).Nodup) {row : ConstraintRow}
    {c d : ClassRow} {n : NamespaceRow} (ht : target? s excluded row = some (c, n))
    (hd : d ∈ s.selected excluded) (hschema : s.schemaName excluded d = n.name)
    (hname : d.name = c.name) : d = c := by
  obtain ⟨htc, htn, -⟩ := target?_eq_some_iff.1 ht
  obtain ⟨hnm, hno⟩ := Snapshot.namespace?_some htn
  obtain ⟨m, hmm, hmo, -, hmn⟩ := Snapshot.namespace_of_selected hd
  obtain rfl : m = n := List.inj_on_of_nodup_map hn hmm hnm (hmn.symm.trans hschema)
  have hdm : d ∈ s.rows.classes := List.mem_of_mem_filter (Snapshot.exposed_of_selected hd)
  have he : (d.schema, d.name) = (c.schema, c.name) := by rw [← hmo, hno, hname]
  exact List.inj_on_of_nodup_map hc hdm (Snapshot.class?_some htc).1 he

/-- Live columns of a relation are columns of its table. -/
theorem mem_keys_columnMap_of_live {s : Snapshot} {types : Classification} {name : String}
    {c : ClassRow} {r : NormalizedRelation} (h : c.standing s types name = .normalized r)
    {a : AttributeRow} (ha : a ∈ c.liveAttributes s) : a.name ∈ r.columnMap.keys := by
  obtain ⟨-, -, hcolumns⟩ := ClassRow.columns_of_standing h
  have hm : (a.number, a.name) ∈ (c.liveAttributes s).map fun a => (a.number, a.name) :=
    List.mem_map_of_mem ha
  rw [← hcolumns] at hm
  obtain ⟨column, hcm, he⟩ := List.mem_map.1 hm
  exact NormalizedRelation.mem_keys_columnMap.2 ⟨column, hcm, (Prod.mk.inj he).2⟩

/-- The tables of a schema refer to columns that exist: to their own by themselves, and to those of other
tables where the names of namespaces and relations are distinct. None is of an excluded schema or refers to
one. -/
theorem references_resolve (s : Snapshot) (o : Options) :
    (∀ t ∈ (buildSchema s o).tables.values, t.IsClosed ∧ t.schema ∉ o.excludedSchemas ∧
      ∀ k ∈ t.foreignRelations.values, k.schema ∉ o.excludedSchemas) ∧
    ((s.rows.namespaces.map NamespaceRow.name).Nodup →
      (s.rows.classes.map fun c => (c.schema, c.name)).Nodup →
      ∀ t ∈ (buildSchema s o).tables.values, ∀ k ∈ t.foreignRelations.values,
        ∀ u ∈ (buildSchema s o).tables.values, u.schema = k.schema → u.name = k.table →
          ∀ name ∈ k.columns.values, name ∈ u.columns.keys) := by
  refine ⟨fun t ht => ⟨?_, schemas_of_mem_tables ht⟩, ?_⟩
  · obtain ⟨r, hr, rfl⟩ := exists_of_mem_tables ht
    obtain ⟨c, -, hstanding⟩ := Snapshot.exists_standing hr
    exact NormalizedRelation.isClosed_table (ClassRow.columns_of_standing hstanding).2.1
  · intro hn hc t ht k hk u hu hschema hname name hmem
    obtain ⟨r, -, rfl⟩ := exists_of_mem_tables ht
    obtain ⟨row, label, hrow⟩ := NormalizedRelation.exists_of_mem_foreignRelations hk
    obtain ⟨c, n, columns, foreignColumns, htarget, -, hforeign, -, -, rfl⟩ :=
      ForeignKey.of_listed? hrow
    obtain ⟨q, hq, rfl⟩ := exists_of_mem_tables hu
    obtain ⟨d, hd, hstanding⟩ := Snapshot.exists_standing hq
    have hdschema : s.schemaName o.excludedSchemas d = n.name :=
      (ClassRow.of_standing hstanding).2.symm.trans hschema
    have hdname : d.name = c.name := (ClassRow.columns_of_standing hstanding).1.symm.trans hname
    obtain rfl : d = c := ForeignKey.target_eq hn hc htarget hd hdschema hdname
    obtain ⟨a, ha, rfl⟩ :=
      Snapshot.exists_of_mem_liveColumnNames? hforeign (mem_right_of_mem_values_zip hmem)
    exact mem_keys_columnMap_of_live hstanding ha

/-- The order of the small catalog refers to the column of the item. -/
theorem sample_references_resolve :
    (Snapshot.sample.rows.namespaces.map NamespaceRow.name).Nodup ∧
      (Snapshot.sample.rows.classes.map fun c => (c.schema, c.name)).Nodup ∧
      ∃ t ∈ (buildSchema .sample .default).tables.values, ∃ k ∈ t.foreignRelations.values,
        ∃ u ∈ (buildSchema .sample .default).tables.values, u.schema = k.schema ∧
          u.name = k.table ∧ k.columns.values = ["id"] ∧
          ∀ name ∈ k.columns.values, name ∈ u.columns.keys := by
  have hn : (Snapshot.sample.rows.namespaces.map NamespaceRow.name).Nodup := by decide
  have hc : (Snapshot.sample.rows.classes.map fun c => (c.schema, c.name)).Nodup := by decide
  have hex : ∃ t ∈ (buildSchema .sample .default).tables.values, ∃ k ∈ t.foreignRelations.values,
      ∃ u ∈ (buildSchema .sample .default).tables.values, u.schema = k.schema ∧
        u.name = k.table ∧ k.columns.values = ["id"] := by decide +kernel
  obtain ⟨t, ht, k, hk, u, hu, hschema, hname, hvalues⟩ := hex
  exact ⟨hn, hc, t, ht, k, hk, u, hu, hschema, hname, hvalues,
    (references_resolve .sample .default).2 hn hc t ht k hk u hu hschema hname⟩

end CatalogSchema
