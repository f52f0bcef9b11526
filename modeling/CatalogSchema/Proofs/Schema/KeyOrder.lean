import CatalogSchema.Proofs.Schema.TableConstraints

/-!
# The order of the keys

Every mapping of a schema has its keys in ascending order by code point, however it came about: sorted in
the end, or written from sorted entries, of which some may have the same key
(`OrderedMap.keysAscend_of_isLE`). Only the columns of a foreign key stand in the order of the constraint
(`keys_are_canonical`).
-/

namespace CatalogSchema

/-- The numbers of the characters of a text. -/
def codePoints (text : String) : List Nat := text.toList.map Char.toNat

theorem codePoints_lt_of_compare {a b : String} (h : compare a b = .lt) : codePoints a < codePoints b := by
  have hlt : a < b := compareOfLessAndEq_eq_lt.1 h
  exact List.map_lt (fun _ _ hchar => hchar) (show a.toList < b.toList from hlt)

namespace OrderedMap

variable {ν μ : Type}

/-- Every key is greater than those before it, compared code point by code point. -/
def KeysAscend (m : OrderedMap String ν) : Prop := m.keys.Pairwise fun a b => codePoints a < codePoints b

instance (m : OrderedMap String ν) : Decidable m.KeysAscend :=
  inferInstanceAs (Decidable (m.keys.Pairwise _))

/-- As no two keys are equal, it is enough that none is smaller than one before it. -/
theorem keysAscend_of_isLE {m : OrderedMap String ν} (h : m.keys.Pairwise fun a b => (compare a b).isLE) :
    m.KeysAscend := by
  refine (h.and m.nodup).imp ?_
  rintro a b ⟨hle, hne⟩
  refine codePoints_lt_of_compare ((Ordering.isLE_iff_eq_lt_or_eq_eq.1 hle).resolve_right fun heq => ?_)
  exact hne (Std.LawfulEqOrd.eq_of_compare heq)

theorem keysAscend_sortByKey (m : OrderedMap String ν) : m.sortByKey.KeysAscend :=
  keysAscend_of_isLE (List.pairwise_map.2 (pairwise_sortBy (compareOn Prod.fst) m.entries))

/-- Keys may repeat in the entries that a map is written from. -/
theorem keysAscend_ofList {es : List (String × ν)}
    (h : es.Pairwise fun a b => (compare a.1 b.1).isLE) : (ofList es).KeysAscend := by
  refine keysAscend_of_isLE ?_
  rw [keys_ofList]
  exact (List.pairwise_map.2 h).sublist (eraseDups_sublist _)

/-- The keys ascend, and so do those of the parts, of which none is empty. -/
structure NestedKeysAscend (m : OrderedMap String (OrderedMap String ν)) : Prop where
  outer : m.KeysAscend
  inner : ∀ part ∈ m.values, part.KeysAscend
  inhabited : ∀ part ∈ m.values, part.keys ≠ []

/-- A part of a nested map is written from the entries with its key, and there is one. -/
theorem exists_of_mem_values_nest {es : List (String × String × ν)} {part : OrderedMap String ν}
    (h : part ∈ (nest es).values) :
    ∃ k, part = ofList ((es.filter (·.1 = k)).map Prod.snd) ∧ part.keys ≠ [] := by
  obtain ⟨⟨k, _⟩, he, rfl⟩ := List.mem_map.1 h
  have hpart := find?_nest es k
  rw [find?_eq_some_iff.2 he, Option.getD_some] at hpart
  refine ⟨k, hpart, ?_⟩
  obtain ⟨e, hes, hkey⟩ := List.mem_map.1 (mem_keys_nest (List.mem_map_of_mem he))
  have hmem : e.2.1 ∈ (ofList ((es.filter (·.1 = k)).map Prod.snd)).keys := by
    refine mem_keys_ofList.2 (List.mem_map_of_mem (List.mem_map_of_mem (List.mem_filter.2 ⟨hes, ?_⟩)))
    exact decide_eq_true hkey
  rw [hpart]
  exact List.ne_nil_of_mem hmem

/-- A nested map is in order when its entries are, by the first key and then by the second. -/
theorem nestedKeysAscend_nest {es : List (String × String × ν)}
    (h : es.Pairwise fun a b => (byTwo Prod.fst (fun e => e.2.1) a b).isLE) :
    (nest es).NestedKeysAscend where
  outer := by
    refine keysAscend_of_isLE ?_
    rw [keys_nest]
    refine List.Pairwise.sublist (eraseDups_sublist _) (List.pairwise_map.2 (h.imp fun {a b} hab => ?_))
    exact Ordering.isLE_left_of_isLE_then hab
  inner part hpart := by
    obtain ⟨k, rfl, -⟩ := exists_of_mem_values_nest hpart
    refine keysAscend_ofList (List.pairwise_map.2 ?_)
    refine (h.sublist List.filter_sublist).imp_of_mem fun {a b} ha hb hab => ?_
    have hfirst : a.1 = b.1 :=
      (of_decide_eq_true (List.mem_filter.1 ha).2).trans (of_decide_eq_true (List.mem_filter.1 hb).2).symm
    rw [byTwo, compareLex, compareOn, hfirst, Std.ReflOrd.compare_self] at hab
    exact hab
  inhabited part hpart := by
    obtain ⟨_, -, hne⟩ := exists_of_mem_values_nest hpart
    exact hne

/-- A nested map is in order once its parts and then the whole are sorted. -/
theorem nestedKeysAscend_sortByKey (es : List (String × String × ν)) :
    (((nest es).mapValues sortByKey).sortByKey).NestedKeysAscend := by
  have hparts : ∀ part ∈ (((nest es).mapValues sortByKey).sortByKey).values,
      ∃ unsorted ∈ (nest es).values, part = unsorted.sortByKey := by
    intro part hpart
    obtain ⟨e, he, rfl⟩ := List.mem_map.1 hpart
    obtain ⟨d, hd, rfl⟩ := List.mem_map.1 ((entries_sortByKey_perm _).mem_iff.1 he)
    exact ⟨d.2, List.mem_map_of_mem hd, rfl⟩
  refine ⟨keysAscend_sortByKey _, fun part hpart => ?_, fun part hpart => ?_⟩
  · obtain ⟨unsorted, -, rfl⟩ := hparts part hpart
    exact keysAscend_sortByKey unsorted
  · obtain ⟨unsorted, hunsorted, rfl⟩ := hparts part hpart
    obtain ⟨_, -, hne⟩ := exists_of_mem_values_nest hunsorted
    intro hnil
    exact hne (List.Perm.eq_nil (hnil ▸ (unsorted.entries_sortByKey_perm.map Prod.fst).symm))

end OrderedMap

/-! ## The mappings of a schema -/

/-- The keys of every mapping ascend, save those of the columns of foreign keys; no type is listed without a
function. -/
structure Metadata.IsCanonical (m : Metadata) : Prop where
  tables : m.tables.KeysAscend
  columns : ∀ t ∈ m.tables.values, t.columns.KeysAscend
  uniqueness : ∀ t ∈ m.tables.values, t.uniqueness.KeysAscend
  foreignRelations : ∀ t ∈ m.tables.values, t.foreignRelations.KeysAscend
  aggregates : m.aggregates.NestedKeysAscend
  comparisons : m.comparisons.NestedKeysAscend

theorem NormalizedRelation.keysAscend_columnMap (r : NormalizedRelation) : r.columnMap.KeysAscend :=
  OrderedMap.keysAscend_ofList (List.pairwise_map.2 (isStableSort_sortOn _ r.columns).ascends)

theorem Aggregate.nestedKeysAscend_functions (as : List Aggregate) : (functions as).NestedKeysAscend :=
  OrderedMap.nestedKeysAscend_nest (List.pairwise_map.2 (pairwise_sortBy (byTwo argumentType name) as))

theorem Metadata.isCanonical_buildSchema (s : Snapshot) (o : Options) : (buildSchema s o).IsCanonical := by
  have htable : ∀ t ∈ (buildSchema s o).tables.values, ∃ r : NormalizedRelation,
      t = r.table s o.excludedSchemas := by
    intro t ht
    obtain ⟨c, -, hexposes⟩ := Snapshot.exists_exposes ht
    obtain ⟨r, -, rfl⟩ := hexposes.eq_table
    exact ⟨r, rfl⟩
  exact
    { tables := by
        rw [tables_buildSchema]
        exact OrderedMap.keysAscend_sortByKey _
      columns := fun t ht => by
        obtain ⟨r, rfl⟩ := htable t ht
        exact r.keysAscend_columnMap
      uniqueness := fun t ht => by
        obtain ⟨r, rfl⟩ := htable t ht
        exact OrderedMap.keysAscend_sortByKey _
      foreignRelations := fun t ht => by
        obtain ⟨r, rfl⟩ := htable t ht
        exact OrderedMap.keysAscend_sortByKey _
      aggregates := Aggregate.nestedKeysAscend_functions _
      comparisons := OrderedMap.nestedKeysAscend_sortByKey _ }

theorem ForeignKey.kind_of_listed? {s : Snapshot} {excluded : List String} {owner : NormalizedRelation}
    {r : ConstraintRow} {e : String × ForeignRelation} (h : listed? s excluded owner r = some e) :
    r.kind = kind := by
  unfold listed? at h
  split at h
  · assumption
  · cases h

/-- A foreign key of a table is one of its relation, and has its columns in the order of the constraint. -/
theorem exists_constraint_of_mem_foreignRelations {s : Snapshot} {excluded : List String}
    {r : NormalizedRelation} {e : String × ForeignRelation} (he : e ∈ (r.table s excluded).foreignRelations.entries) :
    ∃ c ∈ s.rows.constraints, c.relation = r.id ∧ c.kind = ForeignKey.kind ∧ c.name = e.1 ∧
      ∃ columns, r.columnNames? c.numbers = some columns ∧ e.2.columns.keys = columns.eraseDups := by
  have hlisted := OrderedMap.mem_of_mem_entries_ofList ((OrderedMap.entries_sortByKey_perm _).mem_iff.1 he)
  obtain ⟨c, hc, hlisted⟩ := List.mem_filterMap.1 hlisted
  obtain ⟨hmem, howner⟩ := List.mem_filter.1 (mem_sortBy.1 hc)
  obtain ⟨hname, d, n, columns, foreignColumns, -, hpairs, hrelation⟩ := ForeignKey.pairs_of_listed? hlisted
  obtain ⟨hcolumns, -, -, hlength⟩ := ForeignKey.columnPairs?_eq_some_iff.1 hpairs
  refine ⟨c, hmem, of_decide_eq_true howner, ForeignKey.kind_of_listed? hlisted, hname.symm, columns,
    hcolumns, ?_⟩
  rw [hrelation]
  exact OrderedMap.keys_zip hlength

/-- The keys of all mappings ascend, and none of the parts of the functions is empty; the columns of a
foreign key stand in the order in which they come first in the key of its constraint. -/
theorem keys_are_canonical (s : Snapshot) (o : Options) :
    (buildSchema s o).IsCanonical ∧
      ∀ t ∈ (buildSchema s o).tables.values, ∃ r ∈ (s.relations o.excludedSchemas).values,
        s.Exposes o r.id t ∧ ∀ e ∈ t.foreignRelations.entries,
          ∃ c ∈ s.rows.constraints, c.relation = r.id ∧ c.kind = ForeignKey.kind ∧ c.name = e.1 ∧
            ∃ columns, r.columnNames? c.numbers = some columns ∧ e.2.columns.keys = columns.eraseDups := by
  refine ⟨Metadata.isCanonical_buildSchema s o, fun t ht => ?_⟩
  obtain ⟨c, -, hexposes⟩ := Snapshot.exists_exposes ht
  obtain ⟨r, hr, rfl⟩ := hexposes.eq_table
  rw [← Snapshot.id_of_find?_relations hr] at hexposes
  exact ⟨r, OrderedMap.mem_values_of_find? hr, hexposes, fun e => exists_constraint_of_mem_foreignRelations⟩

/-- The orders refer to the pairs by item and number. -/
example : ∃ t ∈ (buildSchema .keyedSample .default).tables.values, ∃ f ∈ t.foreignRelations.values,
    ¬ f.columns.KeysAscend := by decide +kernel

end CatalogSchema
