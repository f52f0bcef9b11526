import CatalogSchema.Proofs.Aggregate
import CatalogSchema.Proofs.Operator.ClosedForm
import CatalogSchema.Proofs.Schema.Closure
import CatalogSchema.Proofs.Typing.Lookup

/-!
# Type names in a schema

Each part of a schema gets its type names on a way of its own: columns from the types of attributes,
aggregates from the signatures of procedures, comparison functions from definitions and, in place of
their arguments, from casts. On every one of them only names of scalar types get through, save for the
elements of array columns (`schema_names_classified_types`).
-/

namespace CatalogSchema

namespace Metadata

/-- A type goes by this name in the schema, be it as the type of a column, of an argument or of a result. -/
inductive UsesType (m : Metadata) : String → Prop
  | column {t : Table} {c : Column} {name : String} :
    t ∈ m.tables.values → c ∈ t.columns.values → c.type = .scalar name → UsesType m name
  | aggregated {e : String × OrderedMap String AggregateFunction} :
    e ∈ m.aggregates.entries → UsesType m e.1
  | returned {e : String × OrderedMap String AggregateFunction} {f : AggregateFunction} :
    e ∈ m.aggregates.entries → f ∈ e.2.values → UsesType m f.returnType
  | compared {e : String × OrderedMap String ComparisonFunction} :
    e ∈ m.comparisons.entries → UsesType m e.1
  | comparedWith {e : String × OrderedMap String ComparisonFunction} {f : ComparisonFunction} :
    e ∈ m.comparisons.entries → f ∈ e.2.values → UsesType m f.argumentType

/-- The elements of a column go by this name. -/
def UsesElement (m : Metadata) (element : String) : Prop :=
  ∃ t ∈ m.tables.values, ∃ c ∈ t.columns.values, c.type = .array element

end Metadata

/-! ## Columns -/

theorem ClassRow.exists_normalize?_of_standing {s : Snapshot} {types : Classification} {name : String}
    {c : ClassRow} {r : NormalizedRelation} (h : c.standing s types name = .normalized r)
    {column : NormalizedColumn} (hc : column ∈ r.columns) :
    ∃ a : AttributeRow, a.normalize? s types = some column := by
  obtain ⟨-, -, rfl⟩ := standing_eq_normalized_iff.1 h
  obtain ⟨a, -, ha⟩ := List.mem_filterMap.1 hc
  exact ⟨a, ha⟩

/-- The column of a table has a type that can be exposed. -/
theorem exists_columnType?_of_mem_tables {s : Snapshot} {o : Options} {t : Table}
    (ht : t ∈ (buildSchema s o).tables.values) {c : Column} (hc : c ∈ t.columns.values) :
    ∃ id, s.types.columnType? id = some c.type := by
  obtain ⟨r, hr, rfl⟩ := exists_of_mem_tables ht
  obtain ⟨row, -, hstanding⟩ := Snapshot.exists_standing hr
  obtain ⟨e, he, rfl⟩ := List.mem_map.1 hc
  obtain ⟨column, hcolumn, rfl⟩ := List.mem_map.1 (OrderedMap.mem_of_mem_entries_ofList he)
  obtain ⟨a, ha⟩ := ClassRow.exists_normalize?_of_standing hstanding (mem_sortBy.1 hcolumn)
  obtain ⟨type, htype, rfl⟩ := Option.map_eq_some_iff.1 ha
  exact ⟨a.type, htype⟩

/-! ## Aggregate functions -/

theorem Aggregate.types_of_ofProc? {s : Snapshot} {types : Classification} {p : ProcRow} {a : Aggregate}
    (h : ofProc? s types p = some a) :
    a.argumentType ∈ types.scalarNames ∧ a.returnType ∈ types.scalarNames := by
  obtain ⟨⟨-, ⟨_, -, hargument⟩, hresult⟩, -⟩ := ofProc?_eq_some_iff.1 h
  exact ⟨Classification.mem_scalarNames_of_scalarName? hargument,
    Classification.mem_scalarNames_of_scalarName? hresult⟩

theorem Aggregate.types_of_mem_functions {s : Snapshot} {o : Options}
    {e : String × OrderedMap String AggregateFunction} (h : e ∈ (buildSchema s o).aggregates.entries) :
    e.1 ∈ s.types.scalarNames ∧ ∀ f ∈ e.2.values, f.returnType ∈ s.types.scalarNames := by
  have hlisted : ∀ entry ∈ (sortBy (byTwo argumentType name) (ofSnapshot s s.types)).map Aggregate.entry,
      entry.1 ∈ s.types.scalarNames ∧ entry.2.2.returnType ∈ s.types.scalarNames := by
    intro entry hentry
    obtain ⟨a, ha, rfl⟩ := List.mem_map.1 hentry
    have hcandidate := mem_sortBy.1 ((Bid.sublist_winners_settle _ _ _).subset (mem_sortBy.1 ha))
    obtain ⟨p, -, hp⟩ := List.mem_filterMap.1 hcandidate
    exact types_of_ofProc? hp
  exact OrderedMap.forall_of_mem_nest (P := (· ∈ s.types.scalarNames))
    (Q := fun f => f.returnType ∈ s.types.scalarNames) hlisted h

/-! ## Comparison functions -/

namespace Variant

theorem types_of_mem_definitions {s : Snapshot} {types : Classification} {allowed : List String}
    {d : Variant} (h : d ∈ definitions s types allowed) :
    d.left ∈ types.scalarNames ∧ d.right ∈ types.scalarNames := by
  rcases mem_definitions.1 h with ⟨r, -, hr⟩ | ⟨p, -, -, hp⟩
  · obtain ⟨left, right, hleft, hright, rfl⟩ := of_ofOperator? hr
    exact ⟨Classification.mem_scalarNames_of_scalarName? hleft,
      Classification.mem_scalarNames_of_scalarName? hright⟩
  · obtain ⟨first, second, left, right, -, hleft, hright, rfl⟩ := of_ofProc? hp
    exact ⟨Classification.mem_scalarNames_of_scalarName? hleft,
      Classification.mem_scalarNames_of_scalarName? hright⟩

/-- What may stand for a scalar type is one. -/
theorem Fits.mem_scalarNames {s : Snapshot} {isCast : Bool} {actual declared : String}
    (h : Fits s.casts isCast actual declared) (hd : declared ∈ s.types.scalarNames) :
    actual ∈ s.types.scalarNames := by
  cases isCast
  · rwa [fits_false.1 h]
  · obtain ⟨r, -, hr⟩ := mem_casts.1 (fits_true.1 h)
    unfold ImplicitCast.ofRow? at hr
    split at hr
    · split at hr
      · rename_i source target hsource htarget
        split at hr
        · cases hr
        · cases hr
          exact Classification.mem_scalarNames_of_scalarName? hsource
      · cases hr
    · cases hr

/-- Both arguments of a variant are of scalar types, cast or not. -/
theorem types_of_mem_variants {s : Snapshot} {allowed : List String} {v : Variant}
    (h : v ∈ s.variants allowed) : v.left ∈ s.types.scalarNames ∧ v.right ∈ s.types.scalarNames := by
  have hgrown := (mem_extend_definitions fun d => isDeclared_of_mem_definitions).1 h
  obtain ⟨hleft, hright⟩ := types_of_mem_definitions hgrown.root
  exact ⟨hgrown.left.mem_scalarNames hleft, hgrown.right.mem_scalarNames hright⟩

end Variant

/-- Whoever claims an exposed name is a preferred variant. -/
theorem Exposure.variant_mem_of_mem_winners {preferred : OrderedMap (String × String) Variant}
    {mappings : List OperatorMapping} {c : Claimant} (h : c ∈ (ofPreferred preferred mappings).winners) :
    c.variant ∈ preferred.values := by
  rcases List.mem_append.1 h with h | h
  · obtain ⟨m, -, hm⟩ := List.mem_flatMap.1 ((Bid.sublist_winners_settle _ _ _).subset h)
    obtain ⟨v, hv, rfl⟩ := List.mem_map.1 hm
    exact mem_sortBy.1 (List.mem_of_mem_filter hv)
  · obtain ⟨v, hv, rfl⟩ := List.mem_map.1 ((Bid.sublist_winners_settle _ _ _).subset h)
    exact mem_sortBy.1 (List.mem_of_mem_filter hv)

theorem Variant.types_of_mem_comparisons {s : Snapshot} {o : Options}
    {e : String × OrderedMap String ComparisonFunction} (h : e ∈ (buildSchema s o).comparisons.entries) :
    e.1 ∈ s.types.scalarNames ∧ ∀ f ∈ e.2.values, f.argumentType ∈ s.types.scalarNames := by
  let exposure := Exposure.ofPreferred (select (s.variants o.comparisonFunctions)) o.operatorMappings
  have hlisted : ∀ entry ∈ exposure.winners.map Claimant.entry,
      entry.1 ∈ s.types.scalarNames ∧ entry.2.2.argumentType ∈ s.types.scalarNames := by
    intro entry hentry
    obtain ⟨c, hc, rfl⟩ := List.mem_map.1 hentry
    obtain ⟨chosen, hchosen, hv⟩ := List.mem_map.1 (Exposure.variant_mem_of_mem_winners hc)
    have hpreferred := isPreferred_of_find?_select (OrderedMap.find?_eq_some_iff.2 hchosen)
    rw [hv] at hpreferred
    exact types_of_mem_variants hpreferred.mem
  -- the mappings under the types are sorted by name, and so is the mapping of the types
  have hsorted := (OrderedMap.entries_sortByKey_perm _).mem_iff.1 h
  obtain ⟨⟨left, byName⟩, hnested, rfl⟩ := List.mem_map.1 hsorted
  obtain ⟨hleft, hvalues⟩ := OrderedMap.forall_of_mem_nest (P := (· ∈ s.types.scalarNames))
    (Q := fun f => f.argumentType ∈ s.types.scalarNames) hlisted hnested
  refine ⟨hleft, fun f hf => hvalues f ?_⟩
  exact ((OrderedMap.entries_sortByKey_perm byName).map Prod.snd).mem_iff.1 hf

/-! ## The whole schema -/

theorem Metadata.UsesType.mem_scalarNames {s : Snapshot} {o : Options} {name : String}
    (h : (buildSchema s o).UsesType name) : name ∈ s.types.scalarNames := by
  cases h with
  | column ht hc htype =>
    obtain ⟨id, hid⟩ := exists_columnType?_of_mem_tables ht hc
    rcases Classification.of_columnType? hid with ⟨scalar, hscalar, he⟩ | ⟨a, -, he⟩
    · cases htype.symm.trans he
      exact hscalar
    · cases htype.symm.trans he
  | aggregated he => exact (Aggregate.types_of_mem_functions he).1
  | returned he hf => exact (Aggregate.types_of_mem_functions he).2 _ hf
  | compared he => exact (Variant.types_of_mem_comparisons he).1
  | comparedWith he hf => exact (Variant.types_of_mem_comparisons he).2 _ hf

theorem Metadata.UsesElement.exists_array {s : Snapshot} {o : Options} {element : String}
    (h : (buildSchema s o).UsesElement element) : ∃ a ∈ s.types.arrays.values, a.element = element := by
  obtain ⟨t, ht, c, hc, htype⟩ := h
  obtain ⟨id, hid⟩ := exists_columnType?_of_mem_tables ht hc
  rcases Classification.of_columnType? hid with ⟨scalar, -, he⟩ | ⟨a, ha, he⟩
  · cases htype.symm.trans he
  · cases htype.symm.trans he
    exact ⟨a, ha, rfl⟩

/-- Every type that a schema names is a scalar type of the catalog, so none has a name that is excluded. Only
the elements of array columns are told by the name of another row: that of the elements of an array type,
which is neither composite nor a pseudo-type nor an array itself. -/
theorem schema_names_classified_types (s : Snapshot) (o : Options) :
    (∀ name, (buildSchema s o).UsesType name → name ∈ s.types.scalarNames ∧ name ∉ excludedTypeNames) ∧
      ∀ element, (buildSchema s o).UsesElement element →
        ∃ a ∈ s.types.arrays.values, a.element = element ∧
          ∃ row, Classification.elementRow? s.rows.types a = some row ∧ row.name = element ∧
            row.kind ∉ excludedTypeKinds ∧ row.isArray = false := by
  refine ⟨fun name h => ?_, fun element h => ?_⟩
  · have hname := h.mem_scalarNames
    exact ⟨hname, Classification.notMem_denied_of_mem_scalarNames hname⟩
  · obtain ⟨a, ha, rfl⟩ := h.exists_array
    obtain ⟨row, hrow, hfit, hname⟩ := Classification.exists_elementRow ha
    obtain ⟨hkind, harray⟩ : row.kind ∉ excludedTypeKinds ∧ row.isArray = false := by
      simpa [TypeRow.isElement, TypeRow.isExcludedKind] using hfit
    exact ⟨a, ha, rfl, row, hrow, hname, hkind, harray⟩

/-- The small catalog compares `int4` and has an array of `text`. -/
theorem sample_names_classified :
    (buildSchema .sample .default).UsesType "int4" ∧ (buildSchema .sample .default).UsesElement "text" ∧
      ("int4" ∈ Snapshot.sample.types.scalarNames ∧ "int4" ∉ excludedTypeNames) ∧
      ∃ a ∈ Snapshot.sample.types.arrays.values, a.element = "text" ∧
        ∃ row, Classification.elementRow? Snapshot.sample.rows.types a = some row ∧ row.name = "text" ∧
          row.kind ∉ excludedTypeKinds ∧ row.isArray = false := by
  have hcompared : ∃ e ∈ (buildSchema .sample .default).comparisons.entries, e.1 = "int4" := by
    decide +kernel
  have helement : (buildSchema .sample .default).UsesElement "text" := by
    unfold Metadata.UsesElement
    decide +kernel
  have htype : (buildSchema .sample .default).UsesType "int4" := by
    obtain ⟨e, he, hname⟩ := hcompared
    rw [← hname]
    exact .compared he
  obtain ⟨hscalar, harray⟩ := schema_names_classified_types .sample .default
  exact ⟨htype, helement, hscalar _ htype, harray _ helement⟩

end CatalogSchema
