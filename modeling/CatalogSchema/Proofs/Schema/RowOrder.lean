import CatalogSchema.Proofs.Schema.Functions
import CatalogSchema.Proofs.Schema.Resemblance
import CatalogSchema.Proofs.Typing.Lookup

/-!
# Row order

The database gives the rows of a catalog in any order, and the sets on the way to a schema may be gone
through in any order too. `buildSchemaIn` makes the latter order explicit. Where the keys of the catalog
are unique none of it shows: the schema of rearranged rows is the same, down to the order of its mappings
(`rearranged_same_schema`).
-/

namespace CatalogSchema

/-! ## Rearranged rows -/

/-- The keys by which the catalog tells its rows apart are distinct, and there is one catalog of
relations. -/
structure CatalogRows.UniqueKeys (r : CatalogRows) : Prop where
  namespaces : (r.namespaces.map NamespaceRow.oid).Nodup
  classes : (r.classes.map ClassRow.oid).Nodup
  classNames : (r.classes.map fun c => (c.name, c.schema, c.kind)).Nodup
  attributes : (r.attributes.map fun a => (a.relation, a.number)).Nodup
  types : (r.types.map TypeRow.oid).Nodup
  aggregates : (r.aggregates.map AggregateRow.proc).Nodup
  constraints : (r.constraints.map fun c => (c.relation, c.name)).Nodup
  descriptions : (r.descriptions.map fun d => (d.catalog, d.object, d.part)).Nodup
  classCatalog : ∀ a b, (a, classCatalogName) ∈ r.catalogs.entries →
    (b, classCatalogName) ∈ r.catalogs.entries → a = b

/-- The rows of `q` are those of `r`, each collection in an order of its own. -/
structure CatalogRows.Rearranged (r q : CatalogRows) : Prop where
  namespaces : r.namespaces.Perm q.namespaces
  classes : r.classes.Perm q.classes
  attributes : r.attributes.Perm q.attributes
  types : r.types.Perm q.types
  casts : r.casts.Perm q.casts
  procs : r.procs.Perm q.procs
  operators : r.operators.Perm q.operators
  aggregates : r.aggregates.Perm q.aggregates
  constraints : r.constraints.Perm q.constraints
  descriptions : r.descriptions.Perm q.descriptions
  catalogs : r.catalogs.entries.Perm q.catalogs.entries

theorem CatalogRows.Rearranged.refl (r : CatalogRows) : r.Rearranged r :=
  ⟨.refl _, .refl _, .refl _, .refl _, .refl _, .refl _, .refl _, .refl _, .refl _, .refl _, .refl _⟩

/-- Every collection the other way round. -/
def CatalogRows.reversed (r : CatalogRows) : CatalogRows where
  namespaces := r.namespaces.reverse
  classes := r.classes.reverse
  attributes := r.attributes.reverse
  types := r.types.reverse
  casts := r.casts.reverse
  procs := r.procs.reverse
  operators := r.operators.reverse
  aggregates := r.aggregates.reverse
  constraints := r.constraints.reverse
  descriptions := r.descriptions.reverse
  catalogs := ⟨r.catalogs.entries.reverse,
    ((List.reverse_perm _).map _).nodup_iff.2 r.catalogs.nodup⟩

theorem CatalogRows.rearranged_reversed (r : CatalogRows) : r.Rearranged r.reversed where
  namespaces := (List.reverse_perm _).symm
  classes := (List.reverse_perm _).symm
  attributes := (List.reverse_perm _).symm
  types := (List.reverse_perm _).symm
  casts := (List.reverse_perm _).symm
  procs := (List.reverse_perm _).symm
  operators := (List.reverse_perm _).symm
  aggregates := (List.reverse_perm _).symm
  constraints := (List.reverse_perm _).symm
  descriptions := (List.reverse_perm _).symm
  catalogs := (List.reverse_perm _).symm

/-- The options list the same schemas and functions, in any order and any number of times. -/
structure Options.SameChoices (o p : Options) : Prop where
  excludedSchemas : ∀ name, name ∈ p.excludedSchemas ↔ name ∈ o.excludedSchemas
  unqualifiedSchemas : ∀ name, name ∈ p.unqualifiedSchemas ↔ name ∈ o.unqualifiedSchemas
  comparisonFunctions : ∀ name, name ∈ p.comparisonFunctions ↔ name ∈ o.comparisonFunctions
  operatorMappings : p.operatorMappings = o.operatorMappings

theorem Options.SameChoices.refl (o : Options) : o.SameChoices o :=
  ⟨fun _ => .rfl, fun _ => .rfl, fun _ => .rfl, rfl⟩

/-! ## Sets in some order -/

/-- In which order the sets of casts, of definitions and of variants are gone through. -/
structure SetOrder where
  casts : List ImplicitCast → List ImplicitCast
  definitions : List Variant → List Variant
  variants : List Variant → List Variant
  casts_perm : ∀ cs, (casts cs).Perm cs
  definitions_perm : ∀ ds, (definitions ds).Perm ds
  variants_perm : ∀ vs, (variants vs).Perm vs

/-- Every set in the order in which its members were found. -/
def SetOrder.asFound : SetOrder := ⟨id, id, id, .refl, .refl, .refl⟩

def SetOrder.reversed : SetOrder :=
  ⟨List.reverse, List.reverse, List.reverse, List.reverse_perm, List.reverse_perm, List.reverse_perm⟩

/-- The set of implicit casts, before it is sorted. -/
def Snapshot.castSet (s : Snapshot) : List ImplicitCast :=
  (s.rows.casts.filterMap (ImplicitCast.ofRow? s.types ImplicitCast.excludedPairs)).eraseDups

/-- The connector schema of a snapshot, the sets on the way gone through in the given orders. -/
def buildSchemaIn (order : SetOrder) (s : Snapshot) (o : Options) : Metadata :=
  let casts := sortBy (byTwo ImplicitCast.source ImplicitCast.target) (order.casts s.castSet)
  let definitions := order.definitions (Variant.definitions s s.types o.comparisonFunctions)
  let variants := order.variants (Variant.extend casts definitions)
  { buildSchema s o with comparisons := Variant.exposed variants o.operatorMappings }

theorem buildSchemaIn_asFound (s : Snapshot) (o : Options) :
    buildSchemaIn .asFound s o = buildSchema s o := rfl

/-! ## Options -/

theorem exposedSchemas_congr {excluded excluded' : List String}
    (h : ∀ name, name ∈ excluded' ↔ name ∈ excluded) (namespaces : List NamespaceRow) :
    exposedSchemas namespaces excluded' = exposedSchemas namespaces excluded := by
  simp only [exposedSchemas, h]

theorem ForeignKey.target?_congr {excluded excluded' : List String}
    (h : ∀ name, name ∈ excluded' ↔ name ∈ excluded) (s : Snapshot) (r : ConstraintRow) :
    target? s excluded' r = target? s excluded r := by
  refine Option.ext fun target => ?_
  obtain ⟨c, n⟩ := target
  rw [target?_eq_some_iff, target?_eq_some_iff, h]

theorem NormalizedRelation.exposedName_congr {unqualified unqualified' : List String}
    (h : ∀ name, name ∈ unqualified' ↔ name ∈ unqualified) :
    exposedName unqualified' = exposedName unqualified := by
  funext r
  simp only [exposedName, h]

theorem tables_congr {o p : Options} (h : o.SameChoices p) (s : Snapshot) :
    (buildSchema s p).tables = (buildSchema s o).tables := by
  have hrelations : s.relations p.excludedSchemas = s.relations o.excludedSchemas := by
    simp only [Snapshot.relations, NormalizedRelation.ofSnapshot, NormalizedRelation.survey,
      exposedSchemas_congr h.excludedSchemas]
  have hname := NormalizedRelation.exposedName_congr h.unqualifiedSchemas
  have hwinners (rs : List NormalizedRelation) :
      tableWinners rs p.unqualifiedSchemas = tableWinners rs o.unqualifiedSchemas := by
    simp only [tableWinners, TableBids.ofRelations, hname]
  have htable (r : NormalizedRelation) : r.table s p.excludedSchemas = r.table s o.excludedSchemas := by
    have hkey : ForeignKey.listed? s p.excludedSchemas = ForeignKey.listed? s o.excludedSchemas := by
      funext owner c
      simp only [ForeignKey.listed?, ForeignKey.target?_congr h.excludedSchemas]
    simp only [NormalizedRelation.table, hkey]
  rw [tables_buildSchema, tables_buildSchema, hrelations, hwinners, hname]
  simp only [htable]

/-! ## Rows -/

namespace CatalogRows.Rearranged

variable {s t : Snapshot}

theorem namespace?_eq (h : s.rows.Rearranged t.rows) (hu : s.rows.UniqueKeys) (id : Int) :
    t.namespace? id = s.namespace? id := by
  rw [Snapshot.namespace?_eq, Snapshot.namespace?_eq]
  exact (OrderedMap.find?_indexBy_of_perm h.namespaces hu.namespaces id).symm

theorem class?_eq (h : s.rows.Rearranged t.rows) (hu : s.rows.UniqueKeys) (id : Int) :
    t.class? id = s.class? id := by
  rw [Snapshot.class?_eq, Snapshot.class?_eq]
  exact (OrderedMap.find?_indexBy_of_perm h.classes hu.classes id).symm

theorem rowsById_eq (h : s.rows.Rearranged t.rows) (hu : s.rows.UniqueKeys) (id : Int) :
    (Classification.rowsById t.rows.types).find? id = (Classification.rowsById s.rows.types).find? id :=
  (OrderedMap.find?_indexBy_of_perm h.types hu.types id).symm

theorem classCatalog_eq (h : s.rows.Rearranged t.rows) (hu : s.rows.UniqueKeys) :
    t.classCatalog = s.classCatalog := by
  have hmem {r : Snapshot} : (r.classCatalog, classCatalogName) ∈ r.rows.catalogs.entries := by
    obtain ⟨e, he, hid⟩ := Option.map_eq_some_iff.1 r.keyOf_classCatalog
    have hname : e.2 = classCatalogName := by simpa using List.find?_some he
    rw [← hid, ← hname]
    exact List.mem_of_find?_eq_some he
  exact hu.classCatalog _ _ (h.catalogs.mem_iff.2 hmem) hmem

theorem find?_schemas_eq (h : s.rows.Rearranged t.rows) (hu : s.rows.UniqueKeys)
    (excluded : List String) (id : Int) :
    (t.schemas excluded).find? id = (s.schemas excluded).find? id := by
  refine (OrderedMap.find?_ofList_of_perm ((h.namespaces.filter _).map _) ?_ id).symm
  rw [List.map_map]
  exact (List.filter_sublist.map _).nodup hu.namespaces

theorem selected_eq (h : s.rows.Rearranged t.rows) (hu : s.rows.UniqueKeys) (excluded : List String) :
    t.selected excluded = s.selected excluded := by
  have hkeys (id : Int) : id ∈ (t.schemas excluded).keys ↔ id ∈ (s.schemas excluded).keys :=
    OrderedMap.mem_keys_iff_of_find? (h.find?_schemas_eq hu excluded id)
  unfold Snapshot.selected ClassRow.select ClassRow.bids ClassRow.candidates
  simp only [hkeys]
  refine congrArg (fun cs => Bid.winners (Bid.settle ClassRow.name [] cs)) ?_
  -- the sort has one outcome: rows of one name, schema and kind are one row
  refine (sortBy_eq_of_perm (h.classes.filter _) fun c hc d hd hcd => ?_).symm
  obtain ⟨hname, hschema, hkind⟩ := byThree_eq_eq.1 hcd
  have he : (c.name, c.schema, c.kind) = (d.name, d.schema, d.kind) := by rw [hname, hschema, hkind]
  exact List.inj_on_of_nodup_map hu.classNames (List.mem_of_mem_filter hc)
    (List.mem_of_mem_filter hd) he

/-- Rearranged rows look alike. -/
theorem resembles (h : s.rows.Rearranged t.rows) (hu : s.rows.UniqueKeys) (excluded : List String) :
    Snapshot.Resembles .refl excluded s t := by
  refine .of_eq (h.selected_eq hu excluded) ?_ ?_ ?_ ?_ ?_ ?_
  · intro c _
    exact congrArg (Option.getD · "") (h.find?_schemas_eq hu excluded c.schema)
  · intro id
    simp only [Snapshot.types, Classification.columnType?_ofRows, h.rowsById_eq hu,
      Classification.standing_congr (h.rowsById_eq hu)]
  · intro c _
    rw [Snapshot.liveAttributes_eq, Snapshot.liveAttributes_eq,
      sortOn_filter_eq_of_perm h.attributes hu.attributes]
  · intro c _ part
    rw [h.classCatalog_eq hu, Snapshot.description?_eq, Snapshot.description?_eq]
    refine (OrderedMap.find?_ofList_of_perm (h.descriptions.map _) ?_ _).symm
    rw [List.map_map]
    exact hu.descriptions
  · intro c _
    exact (sortOn_filter_eq_of_perm h.constraints hu.constraints c.oid).symm
  · intro r
    refine Option.ext fun target => ?_
    obtain ⟨c, n⟩ := target
    rw [ForeignKey.target?_eq_some_iff, ForeignKey.target?_eq_some_iff, h.class?_eq hu,
      h.namespace?_eq hu]

theorem sameFunctions (h : s.rows.Rearranged t.rows) (hu : s.rows.UniqueKeys) :
    Snapshot.SameFunctions .refl s t where
  scalarName? id := by
    simp only [Snapshot.types, Classification.scalarName?_ofRows, Renumbering.refl_apply,
      h.rowsById_eq hu, Classification.standing_congr (h.rowsById_eq hu)]
  aggregate? id := by
    rw [Renumbering.refl_apply, Snapshot.aggregate?_eq, Snapshot.aggregate?_eq,
      ← OrderedMap.find?_indexBy_of_perm h.aggregates hu.aggregates id]
    exact Option.map_id_apply.symm
  procs := by simpa using h.procs.symm
  operators := by simpa using h.operators.symm
  casts := by simpa using h.casts.symm

end CatalogRows.Rearranged

/-! ## The whole schema -/

theorem buildSchemaIn_eq {s t : Snapshot} {o p : Options} (hu : s.rows.UniqueKeys)
    (h : s.rows.Rearranged t.rows) (ho : o.SameChoices p) (order : SetOrder) :
    buildSchemaIn order t p = buildSchema s o := by
  have htables : (buildSchema t p).tables = (buildSchema s o).tables :=
    (tables_congr ho t).trans (h.resembles hu o.excludedSchemas).tables_eq
  have hf := h.sameFunctions hu
  have hcomparisons : (buildSchemaIn order t p).comparisons = (buildSchema s o).comparisons := by
    refine hf.exposed_eq ho.operatorMappings ho.comparisonFunctions (fun c => ?_)
      (fun d => (order.definitions_perm _).mem_iff) fun v => (order.variants_perm _).mem_iff
    rw [mem_sortBy, (order.casts_perm _).mem_iff, Snapshot.castSet, Snapshot.casts,
      ImplicitCast.ofRows, mem_sortBy]
  have haggregates : (buildSchemaIn order t p).aggregates = (buildSchema s o).aggregates :=
    hf.aggregates_eq o p
  exact Metadata.ext htables haggregates hcomparisons

/-- Whatever the order of rows, of listed options and of sets, an unchanged catalog gives the same schema,
and hence the same text. -/
theorem rearranged_same_schema {s t : Snapshot} {o p : Options} (hu : s.rows.UniqueKeys)
    (h : s.rows.Rearranged t.rows) (ho : o.SameChoices p) (order order' : SetOrder) :
    buildSchema t p = buildSchema s o ∧ buildSchemaIn order s o = buildSchema s o ∧
      buildSchemaIn order' t p = buildSchemaIn order s o ∧
      ∀ spelling layout, ((buildSchemaIn order' t p).encode spelling).render layout =
        ((buildSchemaIn order s o).encode spelling).render layout := by
  have hsame : buildSchemaIn order s o = buildSchema s o := buildSchemaIn_eq hu (.refl _) (.refl _) order
  have he : buildSchemaIn order' t p = buildSchemaIn order s o :=
    (buildSchemaIn_eq hu h ho order').trans hsame.symm
  refine ⟨?_, hsame, he, fun spelling layout => by rw [he]⟩
  rw [← buildSchemaIn_asFound t p]
  exact buildSchemaIn_eq hu h ho .asFound

def Snapshot.reversedSample : Snapshot :=
  ⟨CatalogRows.sample.reversed, 1259, .ofRows CatalogRows.sample.reversed, by decide, rfl⟩

/-- The default options with their lists the other way round and repeated. -/
def Options.repeated : Options where
  excludedSchemas := default.excludedSchemas.reverse ++ default.excludedSchemas
  unqualifiedSchemas := default.unqualifiedSchemas ++ default.unqualifiedSchemas
  operatorMappings := default.operatorMappings
  comparisonFunctions := default.comparisonFunctions.reverse ++ default.comparisonFunctions

theorem reversed_sample_same_schema :
    Snapshot.sample.rows.UniqueKeys ∧
      Snapshot.sample.rows.Rearranged Snapshot.reversedSample.rows ∧
      Options.default.SameChoices .repeated ∧
      buildSchema .reversedSample .repeated = buildSchema .sample .default ∧
      buildSchemaIn .reversed .reversedSample .repeated = buildSchemaIn .asFound .sample .default := by
  have hu : Snapshot.sample.rows.UniqueKeys := by
    refine ⟨by decide, by decide, by decide, by decide, by decide, by decide, by decide, by decide, ?_⟩
    intro a b ha hb
    have hkey (c : Int) (hc : (c, classCatalogName) ∈ Snapshot.sample.rows.catalogs.entries) :
        c = 1259 := by
      simpa [Snapshot.sample, CatalogRows.sample, classCatalogName] using hc
    rw [hkey a ha, hkey b hb]
  have hr : Snapshot.sample.rows.Rearranged Snapshot.reversedSample.rows :=
    CatalogRows.rearranged_reversed _
  have ho : Options.default.SameChoices .repeated := by
    refine ⟨fun name => ?_, fun name => ?_, fun name => ?_, rfl⟩
    · simp [Options.repeated]
    · simp [Options.repeated]
    · simp [Options.repeated]
  obtain ⟨hsame, -, hin, -⟩ := rearranged_same_schema hu hr ho .asFound .reversed
  exact ⟨hu, hr, ho, hsame, hin⟩

end CatalogSchema
