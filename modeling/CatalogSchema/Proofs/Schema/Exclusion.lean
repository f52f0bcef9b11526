import CatalogSchema.Proofs.Schema.Resemblance

/-!
# Excluded schemas do not leak

The schema of a snapshot shows nothing of the relations in excluded schemas: whatever such relations there
are, and whatever columns, constraints and comments they own, the result is the same
(`excluded_schemas_do_not_leak`). Where identifiers are distinct, the two places at which excluded schemas
are recognized, by the namespace before names are settled and by its name at the far end of a foreign key,
agree on which relations are hidden.
-/

namespace CatalogSchema

/-! ## Hidden relations -/

namespace CatalogRows

variable (excluded : List String) (r q : CatalogRows)

/-- The relation is in a namespace whose name is excluded. -/
def isHidden (c : ClassRow) : Bool := r.namespaces.any fun n => n.oid = c.schema && n.name ∈ excluded

/-- The identifiers of the hidden relations. -/
def hiddenIds : List Int := (r.classes.filter (r.isHidden excluded)).map ClassRow.oid

/-- The two catalogs differ only in hidden relations and in rows that these own. -/
structure AgreeOutside : Prop where
  namespaces : q.namespaces = r.namespaces
  classes : q.classes.filter (!q.isHidden excluded ·) = r.classes.filter (!r.isHidden excluded ·)
  attributes : q.attributes.filter (·.relation ∉ r.hiddenIds excluded ++ q.hiddenIds excluded) =
    r.attributes.filter (·.relation ∉ r.hiddenIds excluded ++ q.hiddenIds excluded)
  types : q.types = r.types
  casts : q.casts = r.casts
  procs : q.procs = r.procs
  operators : q.operators = r.operators
  aggregates : q.aggregates = r.aggregates
  constraints : q.constraints.filter (·.relation ∉ r.hiddenIds excluded ++ q.hiddenIds excluded) =
    r.constraints.filter (·.relation ∉ r.hiddenIds excluded ++ q.hiddenIds excluded)
  descriptions : q.descriptions.filter (·.object ∉ r.hiddenIds excluded ++ q.hiddenIds excluded) =
    r.descriptions.filter (·.object ∉ r.hiddenIds excluded ++ q.hiddenIds excluded)
  catalogs : q.catalogs = r.catalogs

variable {excluded r q}

/-- A relation in a namespace that is not excluded is not hidden. -/
theorem isHidden_eq_false (hn : (r.namespaces.map NamespaceRow.oid).Nodup) {c : ClassRow}
    {n : NamespaceRow} (hm : n ∈ r.namespaces) (ho : n.oid = c.schema) (he : n.name ∉ excluded) :
    r.isHidden excluded c = false := by
  rw [isHidden, List.any_eq_false]
  intro m hmm hc
  rw [Bool.and_eq_true, decide_eq_true_iff, decide_eq_true_iff] at hc
  have hmn : m = n := List.inj_on_of_nodup_map hn hmm hm (hc.1.trans ho.symm)
  exact he (hmn ▸ hc.2)

/-- Where identifiers are distinct, a relation that is not hidden has none of a hidden one. -/
theorem notMem_hiddenIds (hc : (r.classes.map ClassRow.oid).Nodup) {c : ClassRow} (hm : c ∈ r.classes)
    (hh : r.isHidden excluded c = false) : c.oid ∉ r.hiddenIds excluded := by
  intro hid
  obtain ⟨d, hd, hdc⟩ := List.mem_map.1 hid
  obtain ⟨hdm, hdh⟩ := List.mem_filter.1 hd
  obtain rfl : d = c := List.inj_on_of_nodup_map hc hdm hm hdc
  rw [hh] at hdh
  cases hdh

end CatalogRows

/-! ## Two snapshots that differ in hidden relations -/

/-- Snapshots with distinct identifiers that differ in hidden relations only. -/
structure Snapshot.DifferHidden (excluded : List String) (s t : Snapshot) : Prop where
  namespaceIds : (s.rows.namespaces.map NamespaceRow.oid).Nodup
  classIds : (s.rows.classes.map ClassRow.oid).Nodup
  classIds' : (t.rows.classes.map ClassRow.oid).Nodup
  agree : s.rows.AgreeOutside excluded t.rows

namespace Snapshot.DifferHidden

variable {excluded : List String} {s t : Snapshot}

theorem schemas_eq (h : DifferHidden excluded s t) : t.schemas excluded = s.schemas excluded :=
  congrArg (exposedSchemas · excluded) h.agree.namespaces

theorem namespace?_eq (h : DifferHidden excluded s t) (id : Int) :
    t.namespace? id = s.namespace? id := by
  rw [Snapshot.namespace?_eq, Snapshot.namespace?_eq, h.agree.namespaces]

/-- A relation in an exposed schema is not hidden. -/
theorem isHidden_eq_false (h : DifferHidden excluded s t) {c : ClassRow}
    (hc : c.schema ∈ (s.schemas excluded).keys) : s.rows.isHidden excluded c = false := by
  obtain ⟨n, hm, ho, he⟩ := mem_keys_exposedSchemas.1 hc
  exact CatalogRows.isHidden_eq_false h.namespaceIds hm ho he

theorem isHidden_eq (h : DifferHidden excluded s t) (c : ClassRow) :
    t.rows.isHidden excluded c = s.rows.isHidden excluded c := by
  unfold CatalogRows.isHidden
  rw [h.agree.namespaces]

/-- What is not hidden is in both snapshots or in none. -/
theorem mem_classes_iff (h : DifferHidden excluded s t) {c : ClassRow}
    (hc : s.rows.isHidden excluded c = false) : c ∈ t.rows.classes ↔ c ∈ s.rows.classes := by
  have hm : c ∈ t.rows.classes.filter (!t.rows.isHidden excluded ·) ↔
      c ∈ s.rows.classes.filter (!s.rows.isHidden excluded ·) := by rw [h.agree.classes]
  simpa [List.mem_filter, h.isHidden_eq, hc] using hm

/-- The identifier of an exposed relation is that of no hidden one. -/
theorem notMem_hiddenIds (h : DifferHidden excluded s t) {c : ClassRow} (hc : c ∈ s.exposed excluded) :
    c.oid ∉ s.rows.hiddenIds excluded ++ t.rows.hiddenIds excluded := by
  obtain ⟨hm, hs⟩ := List.mem_filter.1 hc
  have hh := h.isHidden_eq_false (of_decide_eq_true hs)
  rw [List.mem_append, not_or]
  exact ⟨CatalogRows.notMem_hiddenIds h.classIds hm hh,
    CatalogRows.notMem_hiddenIds h.classIds' ((h.mem_classes_iff hh).2 hm) ((h.isHidden_eq c).trans hh)⟩

theorem selected_eq (h : DifferHidden excluded s t) : t.selected excluded = s.selected excluded := by
  have hcandidates : t.rows.classes.filter
      (fun c => c.isQueryable && c.schema ∈ (s.schemas excluded).keys) =
        s.rows.classes.filter fun c => c.isQueryable && c.schema ∈ (s.schemas excluded).keys := by
    have hagree := h.agree.classes
    simp only [h.isHidden_eq] at hagree
    refine filter_eq_of_filter_eq hagree fun c hc => ?_
    rw [Bool.and_eq_true, decide_eq_true_iff] at hc
    rw [h.isHidden_eq_false hc.2]
    rfl
  unfold selected ClassRow.select ClassRow.bids ClassRow.candidates
  rw [h.schemas_eq, hcandidates]

/-- The rows that an exposed relation owns are the same. -/
theorem owned_eq {α : Type} {owner : α → Int} (h : DifferHidden excluded s t) {c : ClassRow}
    (hc : c ∈ s.exposed excluded) {xs ys : List α}
    (hxy : ys.filter (owner · ∉ s.rows.hiddenIds excluded ++ t.rows.hiddenIds excluded) =
      xs.filter (owner · ∉ s.rows.hiddenIds excluded ++ t.rows.hiddenIds excluded)) :
    ys.filter (owner · = c.oid) = xs.filter (owner · = c.oid) := by
  refine filter_eq_of_filter_eq hxy fun x hx => ?_
  rw [of_decide_eq_true hx]
  exact decide_eq_true (h.notMem_hiddenIds hc)

theorem description?_eq (h : DifferHidden excluded s t) {c : ClassRow} (hc : c ∈ s.exposed excluded)
    (catalog part : Int) : t.description? catalog c.oid part = s.description? catalog c.oid part := by
  rw [description?_eq_of_object, description?_eq_of_object, h.owned_eq hc h.agree.descriptions]

theorem target?_eq_some (h : DifferHidden excluded s t) {r : ConstraintRow} {c : ClassRow}
    {n : NamespaceRow} :
    ForeignKey.target? t excluded r = some (c, n) ↔ ForeignKey.target? s excluded r = some (c, n) := by
  rw [ForeignKey.target?_eq_some_iff, ForeignKey.target?_eq_some_iff, h.namespace?_eq,
    Snapshot.class?_eq, Snapshot.class?_eq, OrderedMap.find?_indexBy_eq_some_iff h.classIds,
    OrderedMap.find?_indexBy_eq_some_iff h.classIds']
  -- by its name the namespace is not excluded; as it is the only one with its identifier, the
  -- relation is not hidden
  refine and_congr_left fun ⟨hn, he⟩ => and_congr_left fun _ => ?_
  obtain ⟨hm, ho⟩ := namespace?_some hn
  exact h.mem_classes_iff (CatalogRows.isHidden_eq_false h.namespaceIds hm ho he)

theorem resembles (h : DifferHidden excluded s t) : Resembles .refl excluded s t := by
  refine .of_eq h.selected_eq ?_ ?_ ?_ ?_ ?_ ?_
  · intro c _
    unfold schemaName
    rw [h.schemas_eq]
  · intro id
    unfold types
    rw [h.agree.types]
  · intro c hc
    rw [liveAttributes_eq, liveAttributes_eq, h.owned_eq hc h.agree.attributes]
  · intro c hc part
    rw [classCatalog_eq h.agree.catalogs, h.description?_eq hc]
  · intro c hc
    unfold constraintsOf
    rw [h.owned_eq hc h.agree.constraints]
  · intro r
    refine Option.ext fun target => ?_
    obtain ⟨c, n⟩ := target
    exact h.target?_eq_some

theorem sameFunctions (h : DifferHidden excluded s t) : SameFunctions .refl s t :=
  .of_rows_eq h.agree.types h.agree.aggregates h.agree.procs h.agree.operators h.agree.casts

end Snapshot.DifferHidden

/-! ## What a schema shows -/

/-- A selected relation is in a namespace that is not excluded, and goes by the name of it. -/
theorem Snapshot.namespace_of_selected {s : Snapshot} {excluded : List String} {c : ClassRow}
    (hc : c ∈ s.selected excluded) : ∃ n ∈ s.rows.namespaces,
      n.oid = c.schema ∧ n.name ∉ excluded ∧ s.schemaName excluded c = n.name := by
  have hm := of_decide_eq_true (List.mem_filter.1 (exposed_of_selected hc)).2
  obtain ⟨e, he, hk⟩ := List.mem_map.1 hm
  have hf : (s.schemas excluded).find? c.schema = some e.2 :=
    OrderedMap.find?_eq_some_iff.2 (hk ▸ he)
  obtain ⟨n, hn, rfl⟩ := List.mem_map.1 (OrderedMap.mem_of_mem_entries_ofList he)
  obtain ⟨hnm, hne⟩ := List.mem_filter.1 hn
  refine ⟨n, hnm, hk, of_decide_eq_true hne, ?_⟩
  unfold schemaName
  rw [hf]
  rfl

theorem Snapshot.schemaName_notMem {s : Snapshot} {excluded : List String} {c : ClassRow}
    (hc : c ∈ s.selected excluded) : s.schemaName excluded c ∉ excluded := by
  obtain ⟨n, -, -, he, hname⟩ := namespace_of_selected hc
  rwa [hname]

/-- No table is of an excluded schema, and none refers to one. -/
theorem schemas_of_mem_tables {s : Snapshot} {o : Options} {table : Table}
    (h : table ∈ (buildSchema s o).tables.values) :
    table.schema ∉ o.excludedSchemas ∧
      ∀ k ∈ table.foreignRelations.values, k.schema ∉ o.excludedSchemas := by
  rw [tables_buildSchema] at h
  obtain ⟨e, he, rfl⟩ := OrderedMap.mem_values_sortByKey_ofList h
  obtain ⟨r, hr, rfl⟩ := List.mem_map.1 he
  obtain ⟨c, hc, -, hname⟩ := Snapshot.exists_selected (mem_of_mem_tableWinners hr)
  refine ⟨?_, fun k hk => ?_⟩
  · show r.schemaName ∉ _
    rw [hname]
    exact Snapshot.schemaName_notMem hc
  · obtain ⟨e, he, rfl⟩ := OrderedMap.mem_values_sortByKey_ofList hk
    obtain ⟨row, -, hrow⟩ := List.mem_filterMap.1 he
    obtain ⟨-, c, n, _, _, ht, -, hrelation⟩ := ForeignKey.pairs_of_listed? hrow
    rw [hrelation]
    exact (ForeignKey.target?_eq_some_iff.1 ht).2.2

-- the view of the small catalog is left out, and so is the foreign key to it
example : (buildSchema .sample .default).tables.entries.map
    (fun e => (e.1, e.2.schema, e.2.foreignRelations.keys)) =
      [("items", "public", []), ("orders", "public", ["orders_item_fkey"])] := by decide +kernel

/-- A foreign key to a hidden relation has no target, as if the relation were unknown. -/
theorem target?_of_isHidden {s : Snapshot} {excluded : List String}
    (hn : (s.rows.namespaces.map NamespaceRow.oid).Nodup) {r : ConstraintRow} {c : ClassRow}
    (hc : s.class? r.foreignRelation = some c) (hh : s.rows.isHidden excluded c = true) :
    ForeignKey.target? s excluded r = none := by
  cases ht : ForeignKey.target? s excluded r with
  | none => rfl
  | some target =>
    obtain ⟨htc, htn, he⟩ := ForeignKey.target?_eq_some_iff.1 ht
    obtain rfl := Option.some.inj (hc.symm.trans htc)
    obtain ⟨hm, ho⟩ := Snapshot.namespace?_some htn
    rw [CatalogRows.isHidden_eq_false hn hm ho he] at hh
    cases hh

/-- The relations of excluded schemas, and all that they own, have no influence on the schema. It has no
table of an excluded schema and no foreign key to one: such a key has no target. -/
theorem excluded_schemas_do_not_leak {s t : Snapshot} {o : Options}
    (hn : (s.rows.namespaces.map NamespaceRow.oid).Nodup)
    (hs : (s.rows.classes.map ClassRow.oid).Nodup) (ht : (t.rows.classes.map ClassRow.oid).Nodup)
    (h : s.rows.AgreeOutside o.excludedSchemas t.rows) :
    buildSchema t o = buildSchema s o ∧
      (∀ table ∈ (buildSchema s o).tables.values, table.schema ∉ o.excludedSchemas ∧
        ∀ k ∈ table.foreignRelations.values, k.schema ∉ o.excludedSchemas) ∧
      ∀ r c, s.class? r.foreignRelation = some c → s.rows.isHidden o.excludedSchemas c = true →
        ForeignKey.target? s o.excludedSchemas r = none := by
  have hd : Snapshot.DifferHidden o.excludedSchemas s t := ⟨hn, hs, ht, h⟩
  have hschema : buildSchema t o = buildSchema s o := hd.resembles.buildSchema_eq hd.sameFunctions
  exact ⟨hschema, fun _ => schemas_of_mem_tables, fun _ _ => target?_of_isHidden hn⟩

/-- The small catalog without its view and the view's column. -/
def CatalogRows.bareSample : CatalogRows :=
  { CatalogRows.sample with
    classes := CatalogRows.sample.classes.take 2
    attributes := CatalogRows.sample.attributes.take 4 }

def Snapshot.bareSample : Snapshot := ⟨.bareSample, 1259, .ofRows .bareSample, by decide, rfl⟩

theorem sample_does_not_leak :
    Snapshot.sample.rows.AgreeOutside Options.default.excludedSchemas Snapshot.bareSample.rows ∧
      buildSchema .bareSample .default = buildSchema .sample .default := by
  have hn : (Snapshot.sample.rows.namespaces.map NamespaceRow.oid).Nodup := by decide
  have hs : (Snapshot.sample.rows.classes.map ClassRow.oid).Nodup := by decide
  have ht : (Snapshot.bareSample.rows.classes.map ClassRow.oid).Nodup := by decide
  have h : Snapshot.sample.rows.AgreeOutside Options.default.excludedSchemas
      Snapshot.bareSample.rows :=
    ⟨rfl, by decide, by decide, rfl, rfl, rfl, rfl, rfl, by decide, by decide, rfl⟩
  exact ⟨h, (excluded_schemas_do_not_leak hn hs ht h).1⟩

end CatalogSchema
