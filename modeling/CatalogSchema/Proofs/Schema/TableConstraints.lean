import CatalogSchema.Proofs.Constraint.ForeignKeys

/-!
# The constraints of a table

A table has the constraints of the relation that it exposes (`Snapshot.Exposes`), each under its name. Its
uniqueness constraints are those that the catalog has over live columns (`uniqueness_is_exact`). A foreign
key keeps all its pairs of columns just when no column refers to two
(`foreign_key_pairs`): the pairs become a mapping from the columns of the table, and there the last pair of
a column counts.
-/

namespace CatalogSchema

/-! ## The relation that a table exposes -/

/-- The relation with the identifier is normalized, and under the name that it would be exposed by stands a
table of its schema and name. -/
def Snapshot.Exposes (s : Snapshot) (o : Options) (relation : Int) (t : Table) : Prop :=
  ∃ e ∈ (s.relations o.excludedSchemas).entries, e.1 = relation ∧
    (buildSchema s o).tables.find? (e.2.exposedName o.unqualifiedSchemas) = some t ∧
    t.schema = e.2.schemaName ∧ t.name = e.2.name

instance (s : Snapshot) (o : Options) (relation : Int) (t : Table) :
    Decidable (s.Exposes o relation t) := inferInstanceAs (Decidable (∃ e ∈ _, _))

namespace Snapshot

variable {s : Snapshot} {o : Options} {t : Table}

/-- Normalized relations are told apart by their names. -/
theorem eq_of_name_relations {excluded : List String} {q r : NormalizedRelation}
    (hq : q ∈ (s.relations excluded).values) (hr : r ∈ (s.relations excluded).values)
    (h : q.name = r.name) : q = r := by
  obtain ⟨c, hc, hqc⟩ := exists_standing hq
  obtain ⟨d, hd, hrd⟩ := exists_standing hr
  have hname : c.name = d.name := by
    rw [← (ClassRow.columns_of_standing hqc).1, ← (ClassRow.columns_of_standing hrd).1, h]
  obtain rfl : c = d := List.inj_on_of_nodup_map ClassRow.nodup_name_select hc hd hname
  rw [hqc] at hrd
  cases hrd
  rfl

/-- The table that exposes a relation is the relation's own. -/
theorem Exposes.eq_table {relation : Int} (h : s.Exposes o relation t) :
    ∃ r, (s.relations o.excludedSchemas).find? relation = some r ∧ t = r.table s o.excludedSchemas := by
  obtain ⟨⟨_, r⟩, he, rfl, ht, -, hname⟩ := h
  obtain ⟨q, hq, -, rfl⟩ := find?_tables_eq_some_iff.1 ht
  have hr : r ∈ (s.relations o.excludedSchemas).values := List.mem_map_of_mem he
  obtain rfl : q = r := eq_of_name_relations (mem_of_mem_tableWinners hq) hr hname
  exact ⟨q, OrderedMap.find?_eq_some_iff.2 he, rfl⟩

/-- Every table exposes a relation of the catalog. -/
theorem exists_exposes (h : t ∈ (buildSchema s o).tables.values) :
    ∃ c ∈ s.rows.classes, s.Exposes o c.oid t := by
  obtain ⟨⟨name, _⟩, he, rfl⟩ := List.mem_map.1 h
  have hfind := OrderedMap.find?_eq_some_iff.2 he
  obtain ⟨r, hr, hname, rfl⟩ := find?_tables_eq_some_iff.1 hfind
  have hm := mem_of_mem_tableWinners hr
  obtain ⟨c, hc, hid, -⟩ := exists_selected hm
  have hentry := OrderedMap.find?_eq_some_iff.1 (find?_relations_of_mem hm)
  refine ⟨c, List.mem_of_mem_filter (exposed_of_selected hc), _, hentry, hid, ?_, rfl, rfl⟩
  rw [hname]
  exact hfind

end Snapshot

/-! ## Constraints under their names -/

section Listed

variable {s : Snapshot} {γ : Type} {listed? : ConstraintRow → Option (String × γ)}

/-- Where a relation has no two constraints of one name, each constraint is found under its own. -/
theorem find?_constraintsOf_eq_some_iff
    (hc : (s.rows.constraints.map fun r => (r.relation, r.name)).Nodup)
    (hname : ∀ r e, listed? r = some e → e.1 = r.name) {relation : Int} {name : String} {x : γ} :
    (OrderedMap.ofList ((s.constraintsOf relation).filterMap listed?)).sortByKey.find? name = some x ↔
      ∃ r ∈ s.rows.constraints, r.relation = relation ∧ listed? r = some (name, x) := by
  have hnames : ((s.constraintsOf relation).map ConstraintRow.name).Nodup :=
    ((perm_sortBy _ _).map _).nodup_iff.2 (nodup_map_filter hc relation)
  have hkeys : (((s.constraintsOf relation).filterMap listed?).map Prod.fst).Nodup := by
    refine List.pairwise_map.2 (List.pairwise_filterMap.2 ((List.pairwise_map.1 hnames).imp ?_))
    intro q r hne d hd e he
    rwa [hname q d hd, hname r e he]
  rw [OrderedMap.find?_sortByKey, OrderedMap.find?_ofList_eq_some_iff hkeys, List.mem_filterMap]
  simp only [Snapshot.constraintsOf, sortOn, mem_sortBy, List.mem_filter, decide_eq_true_eq, and_assoc]

end Listed

/-! ## Uniqueness constraints -/

/-- A primary key or unique constraint of the relation goes by the name, and these are the live columns at
its numbers, in the order of the key. -/
def CatalogRows.HasUniqueness (rows : CatalogRows) (relation : Int) (name : String)
    (columns : List String) : Prop :=
  ∃ r ∈ rows.constraints, r.relation = relation ∧ r.kind ∈ ["u", "p"] ∧ r.name = name ∧
    r.numbers ≠ [] ∧ List.Forall₂ (rows.NamesColumn relation) r.numbers columns

/-- A table has the uniqueness constraints of its relation. -/
theorem NormalizedRelation.find?_uniqueness_eq_some_iff {s : Snapshot} {excluded : List String}
    (ha : (s.rows.attributes.map fun a => (a.relation, a.number)).Nodup)
    (hc : (s.rows.constraints.map fun r => (r.relation, r.name)).Nodup) {relation : Int}
    {q : NormalizedRelation} (hq : (s.relations excluded).find? relation = some q) {name : String}
    {columns : List String} : (q.table s excluded).uniqueness.find? name = some columns ↔
      s.rows.HasUniqueness relation name columns := by
  have hname (r : ConstraintRow) (e : String × List String)
      (h : UniquenessConstraint.listed? q r = some e) : e.1 = r.name :=
    (UniquenessConstraint.listed?_eq_some_iff.1 h).2.1.symm
  obtain rfl : q.id = relation := Snapshot.id_of_find?_relations hq
  unfold table CatalogRows.HasUniqueness
  rw [find?_constraintsOf_eq_some_iff hc hname]
  simp only [UniquenessConstraint.listed?_eq_some_iff, columnNames?_eq_some_iff_of_find? ha hq,
    UniquenessConstraint.kinds, ConstraintRow.numbers]

/-- Each table exposes a relation, and under a name it has the columns of the relation's primary key or
unique constraint of that name; none that is over live columns is left out. -/
theorem uniqueness_is_exact (s : Snapshot) (o : Options)
    (ha : (s.rows.attributes.map fun a => (a.relation, a.number)).Nodup)
    (hc : (s.rows.constraints.map fun r => (r.relation, r.name)).Nodup) :
    (∀ t ∈ (buildSchema s o).tables.values, ∃ c ∈ s.rows.classes, s.Exposes o c.oid t) ∧
    ∀ c ∈ s.rows.classes, ∀ t, s.Exposes o c.oid t →
      (∀ name columns, t.uniqueness.find? name = some columns ↔
        s.rows.HasUniqueness c.oid name columns) ∧
      ∀ r ∈ s.rows.constraints, r.relation = c.oid → r.kind ∈ ["u", "p"] → r.numbers ≠ [] →
        (∀ number ∈ r.numbers, ∃ a ∈ s.rows.liveAttributes c.oid, a.number = number) →
        r.name ∈ t.uniqueness.keys := by
  refine ⟨fun t => Snapshot.exists_exposes, fun c _ t ht => ?_⟩
  obtain ⟨q, hq, rfl⟩ := ht.eq_table
  refine ⟨fun name columns => NormalizedRelation.find?_uniqueness_eq_some_iff ha hc hq, ?_⟩
  intro r hr hrelation hkind hne hlive
  obtain ⟨names, hnames⟩ := Snapshot.exists_liveColumnNames?_iff.2 hlive
  rw [Snapshot.liveColumnNames?_eq_some_iff ha] at hnames
  have hfind : (q.table s o.excludedSchemas).uniqueness.find? r.name = some names :=
    (NormalizedRelation.find?_uniqueness_eq_some_iff ha hc hq).2
      ⟨r, hr, hrelation, hkind, rfl, hne, hnames⟩
  exact OrderedMap.isSome_find?_iff.1 (by rw [hfind]; rfl)

/-- The orders are unique by item and number, in this order; the key of the pairs over a column that was
dropped is left out. -/
theorem dropped_column_is_not_unique :
    (Snapshot.keyedSample.rows.attributes.map fun a => (a.relation, a.number)).Nodup ∧
      (Snapshot.keyedSample.rows.constraints.map fun r => (r.relation, r.name)).Nodup ∧
      ∃ orders pairs, Snapshot.keyedSample.Exposes .default 16390 orders ∧
        Snapshot.keyedSample.Exposes .default 16400 pairs ∧
        orders.uniqueness.find? "orders_item_id_key" = some ["item", "id"] ∧
        "pairs_pkey" ∈ pairs.uniqueness.keys ∧
        ∀ columns, pairs.uniqueness.find? "pairs_z_key" ≠ some columns := by
  have ha : (Snapshot.keyedSample.rows.attributes.map fun a => (a.relation, a.number)).Nodup := by decide
  have hc : (Snapshot.keyedSample.rows.constraints.map fun r => (r.relation, r.name)).Nodup := by decide
  obtain ⟨-, hexact⟩ := uniqueness_is_exact .keyedSample .default ha hc
  have horders : ∃ t ∈ (buildSchema .keyedSample .default).tables.values,
      Snapshot.keyedSample.Exposes .default 16390 t := by decide +kernel
  have hpairs : ∃ t ∈ (buildSchema .keyedSample .default).tables.values,
      Snapshot.keyedSample.Exposes .default 16400 t := by decide +kernel
  obtain ⟨orders, -, horders⟩ := horders
  obtain ⟨pairs, -, hpairs⟩ := hpairs
  have hordersExact := hexact ⟨16390, "orders", 2200, "r"⟩ (by decide) orders horders
  have hpairsExact := hexact ⟨16400, "pairs", 2200, "r"⟩ (by decide) pairs hpairs
  refine ⟨ha, hc, orders, pairs, horders, hpairs, ?_, ?_, ?_⟩
  · rw [hordersExact.1]
    exact ⟨⟨16403, "orders_item_id_key", "u", 16390, 0, some [2, 1], none⟩, by decide, rfl, by decide, rfl,
      by decide, .cons (by decide) (.cons (by decide) .nil)⟩
  · exact hpairsExact.2 ⟨16401, "pairs_pkey", "p", 16400, 0, some [1, 2], none⟩ (by decide) rfl
      (by decide) (by decide) (by decide)
  · intro columns
    rw [ne_eq, hpairsExact.1]
    rintro ⟨r, hr, -, -, hname, -, hcolumns⟩
    have hrow : r.numbers = [3, 1] := by
      have hall : ∀ r ∈ Snapshot.keyedSample.rows.constraints, r.name = "pairs_z_key" →
          r.numbers = [3, 1] := by decide
      exact hall r hr hname
    rw [hrow] at hcolumns
    cases hcolumns with
    | cons hz _ =>
      have hdropped : (Snapshot.keyedSample.rows.liveAttributes 16400).filter (·.number = 3) = [] := by
        decide
      unfold CatalogRows.NamesColumn at hz
      rw [hdropped] at hz
      cases hz

/-! ## Foreign keys -/

namespace ForeignKey

/-- The columns of a key, each with the one it refers to. -/
def pairs (k : ForeignKey) : List (String × String) := k.columns.zip k.foreignColumns

/-- No column refers to two. -/
def RefersOnce (k : ForeignKey) : Prop := ∀ p ∈ k.pairs, ∀ q ∈ k.pairs, p.1 = q.1 → p.2 = q.2

/-- A foreign key of the snapshot is what one of its constraints is resolved to. -/
theorem exists_standing_of_mem {s : Snapshot} {relations : OrderedMap Int NormalizedRelation}
    {excluded : List String} {k : ForeignKey} (hk : k ∈ ofSnapshot s relations excluded) :
    ∃ r ∈ s.rows.constraints, standing s relations excluded r = .resolved k := by
  obtain ⟨⟨r, _⟩, hr, hresolved⟩ := List.mem_filterMap.1 hk
  obtain ⟨r', hr', he⟩ := List.mem_map.1 hr
  cases he
  exact ⟨r, mem_sortBy.1 hr', resolved?_eq_some_iff.1 hresolved⟩

theorem length_eq_of_mem {s : Snapshot} {relations : OrderedMap Int NormalizedRelation}
    {excluded : List String} {k : ForeignKey} (hk : k ∈ ofSnapshot s relations excluded) :
    k.columns.length = k.foreignColumns.length := by
  obtain ⟨r, -, hr⟩ := exists_standing_of_mem hk
  obtain ⟨-, _, _, _, columns, foreignColumns, -, -, hpairs, rfl⟩ := standing_eq_resolved_iff.1 hr
  exact (columnPairs?_eq_some_iff.1 hpairs).2.2.2

/-- The table of a relation has each of the relation's foreign keys under its name. -/
theorem find?_foreignRelations_of_mem {s : Snapshot} {excluded : List String}
    (hc : (s.rows.constraints.map fun r => (r.relation, r.name)).Nodup) {k : ForeignKey}
    (hk : k ∈ ofSnapshot s (s.relations excluded) excluded) {q : NormalizedRelation}
    (hq : (s.relations excluded).find? k.relation = some q) :
    (q.table s excluded).foreignRelations.find? k.name = some k.toRelation := by
  obtain ⟨r, hr, hstanding⟩ := exists_standing_of_mem hk
  have hentry := resolved?_standing s (s.relations excluded) excluded r
  rw [resolved?_eq_some_iff.2 hstanding, Option.map_some] at hentry
  obtain ⟨owner, howner, hentry⟩ := Option.bind_eq_some_iff.1 hentry.symm
  obtain ⟨e, hlisted, he⟩ := Option.map_eq_some_iff.1 hentry
  obtain ⟨hid, rfl⟩ := Prod.mk.inj he
  -- the owner is found under the identifier of the key's relation, so it is the one with the table
  have hrelation : r.relation = k.relation := (Snapshot.id_of_find?_relations howner).symm.trans hid
  obtain rfl : owner = q := Option.some.inj (howner.symm.trans (hrelation ▸ hq))
  have hname (r : ConstraintRow) (e : String × ForeignRelation) (h : listed? s excluded owner r = some e) :
      e.1 = r.name := (pairs_of_listed? h).1
  unfold NormalizedRelation.table
  rw [find?_constraintsOf_eq_some_iff hc hname]
  exact ⟨r, hr, hrelation.trans hid.symm, hlisted⟩

end ForeignKey

/-- A table has the foreign keys of its relation, each with all its pairs of columns just when no column
refers to two. The columns stand in the order of the key, and where none of them is repeated the pairs are
just those of the key; of pairs with one column only one is left. -/
theorem foreign_key_pairs {s : Snapshot} {o : Options}
    (hc : (s.rows.constraints.map fun r => (r.relation, r.name)).Nodup) {k : ForeignKey}
    (hk : k ∈ ForeignKey.ofSnapshot s (s.relations o.excludedSchemas) o.excludedSchemas) {t : Table}
    (ht : s.Exposes o k.relation t) :
    ∃ f, t.foreignRelations.find? k.name = some f ∧
      f.schema = k.foreignSchema ∧ f.table = k.foreignTable ∧
      k.columns.length = k.foreignColumns.length ∧ f.columns.keys = k.columns.eraseDups ∧
      (∀ pair ∈ f.columns.entries, pair ∈ k.pairs) ∧
      ((∀ pair ∈ k.pairs, pair ∈ f.columns.entries) ↔ k.RefersOnce) ∧
      (k.columns.Nodup → f.columns.entries = k.pairs) := by
  obtain ⟨q, hq, rfl⟩ := ht.eq_table
  have hlen := ForeignKey.length_eq_of_mem hk
  refine ⟨k.toRelation, ForeignKey.find?_foreignRelations_of_mem hc hk hq, rfl, rfl, hlen,
    OrderedMap.keys_zip hlen, ?_, ?_, ?_⟩
  · intro pair
    exact OrderedMap.mem_of_mem_entries_ofList
  · exact OrderedMap.forall_mem_entries_ofList_iff
  · intro hnodup
    have hcolumns : k.pairs.map Prod.fst = k.columns := List.map_fst_zip hlen.le
    rw [← hcolumns] at hnodup
    exact OrderedMap.entries_foldl_insert hnodup

/-- The orders refer to the pairs by item and number, in this order. -/
theorem pair_of_orders_is_kept :
    (Snapshot.keyedSample.rows.constraints.map fun r => (r.relation, r.name)).Nodup ∧
      ∃ k ∈ ForeignKey.ofSnapshot .keyedSample
          (Snapshot.keyedSample.relations Options.default.excludedSchemas) Options.default.excludedSchemas,
        ∃ t f, Snapshot.keyedSample.Exposes .default k.relation t ∧ k.columns = ["item", "id"] ∧
          t.foreignRelations.find? k.name = some f ∧ f.columns.entries = [("item", "x"), ("id", "y")] := by
  have hc : (Snapshot.keyedSample.rows.constraints.map fun r => (r.relation, r.name)).Nodup := by decide
  let k : ForeignKey :=
    ⟨16390, "orders_pair_fkey", ["item", "id"], 16400, "public", "pairs", ["x", "y"]⟩
  have hk : k ∈ ForeignKey.ofSnapshot .keyedSample
      (Snapshot.keyedSample.relations Options.default.excludedSchemas) Options.default.excludedSchemas := by
    decide +kernel
  have ht : ∃ t ∈ (buildSchema .keyedSample .default).tables.values,
      Snapshot.keyedSample.Exposes .default k.relation t := by decide +kernel
  obtain ⟨t, -, ht⟩ := ht
  obtain ⟨f, hf, -, -, -, -, -, -, hentries⟩ := foreign_key_pairs hc hk ht
  exact ⟨hc, k, hk, t, f, ht, rfl, hf, hentries (by decide)⟩

/-- The orders also refer to the pairs by the item alone, for both columns; their table does not say that
the item refers to `x`. -/
theorem both_columns_by_one_lose_a_pair :
    (Snapshot.keyedSample.rows.constraints.map fun r => (r.relation, r.name)).Nodup ∧
      ∃ k ∈ ForeignKey.ofSnapshot .keyedSample
          (Snapshot.keyedSample.relations Options.default.excludedSchemas) Options.default.excludedSchemas,
        ∃ t ∈ (buildSchema .keyedSample .default).tables.values,
          Snapshot.keyedSample.Exposes .default k.relation t ∧ k.pairs = [("item", "x"), ("item", "y")] ∧
          ∃ f ∈ t.foreignRelations.values, t.foreignRelations.find? k.name = some f ∧
            ("item", "x") ∉ f.columns.entries := by
  refine ⟨by decide, ⟨16390, "orders_both_fkey", ["item", "item"], 16400, "public", "pairs", ["x", "y"]⟩,
    by decide +kernel, ?_⟩
  decide +kernel

end CatalogSchema
