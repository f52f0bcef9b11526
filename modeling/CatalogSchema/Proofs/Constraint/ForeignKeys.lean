import CatalogSchema.Proofs.Relation.ColumnNames
import Mathlib.Data.Prod.Lex
import Mathlib.Tactic.MkIffOfInductiveProp

/-!
# Which foreign keys are resolved, and to what

A constraint can be resolved when it is a foreign key of a normalized relation, refers to a relation that
is known and not in an excluded schema, and lists by their numbers as many columns of the one as live
columns of the other (`ConstraintRow.IsResolvable`). Each that can gives one foreign key, which says
position by position what the constraint says (`ConstraintRow.Describes`). `foreign_keys_exact` puts this
together.
-/

namespace CatalogSchema

/-! ## What a constraint says -/

namespace ConstraintRow

/-- The numbers of the columns, none where the catalog gives no list. -/
def numbers (r : ConstraintRow) : List Int := r.key.getD []

/-- The numbers of the columns referred to. -/
def foreignNumbers (r : ConstraintRow) : List Int := r.foreignKey.getD []

/-- The constraint is a foreign key between columns of a normalized relation and as many live columns of a
known relation outside the excluded schemas, which need not be normalized itself. -/
@[mk_iff]
structure IsResolvable (s : Snapshot) (relations : OrderedMap Int NormalizedRelation)
    (excluded : List String) (r : ConstraintRow) : Prop where
  kind : r.kind = "f"
  numbers_ne_nil : r.numbers ≠ []
  foreignNumbers_ne_nil : r.foreignNumbers ≠ []
  length_eq : r.numbers.length = r.foreignNumbers.length
  owner : ∃ e ∈ relations.entries, e.1 = r.relation ∧
    ∀ number ∈ r.numbers, ∃ column ∈ e.2.columns, column.number = number
  target : ∃ c ∈ s.rows.classes, c.oid = r.foreignRelation ∧
    (∃ n ∈ s.rows.namespaces, n.oid = c.schema ∧ n.name ∉ excluded) ∧
    ∀ number ∈ r.foreignNumbers, ∃ a ∈ s.rows.liveAttributes c.oid, a.number = number

instance (s : Snapshot) (relations : OrderedMap Int NormalizedRelation) (excluded : List String) :
    DecidablePred (IsResolvable s relations excluded) := fun r =>
  decidable_of_iff' _ (isResolvable_iff s relations excluded r)

/-- The foreign key says what the constraint says: at each position stand the names of the two columns
whose numbers stand there. -/
structure Describes (s : Snapshot) (relations : OrderedMap Int NormalizedRelation) (r : ConstraintRow)
    (k : ForeignKey) : Prop where
  relation : k.relation = r.relation
  name : k.name = r.name
  columns : ∃ owner, relations.find? r.relation = some owner ∧
    List.Forall₂ owner.NamesColumn r.numbers k.columns
  foreignRelation : k.foreignRelation = r.foreignRelation
  foreignTable : ∃ c ∈ s.rows.classes, c.oid = r.foreignRelation ∧ c.name = k.foreignTable ∧
    ∃ n ∈ s.rows.namespaces, n.oid = c.schema ∧ n.name = k.foreignSchema
  foreignColumns : List.Forall₂ (s.rows.NamesColumn r.foreignRelation) r.foreignNumbers k.foreignColumns

end ConstraintRow

/-! ## What becomes of a constraint -/

namespace ForeignKey

variable {s : Snapshot} {relations : OrderedMap Int NormalizedRelation} {excluded : List String}
  {r : ConstraintRow}

theorem columnPairs?_eq_some_iff {owner : NormalizedRelation} {c : ClassRow}
    {columns foreignColumns : List String} :
    columnPairs? s owner c r = some (columns, foreignColumns) ↔
      owner.columnNames? r.numbers = some columns ∧
      s.liveColumnNames? c r.foreignNumbers = some foreignColumns ∧
      columns ≠ [] ∧ columns.length = foreignColumns.length := by
  show (owner.columnNames? r.numbers).bind _ = _ ↔ _
  constructor
  · intro h
    obtain ⟨xs, hxs, h⟩ := Option.bind_eq_some_iff.1 h
    obtain ⟨ys, hys, h⟩ := Option.bind_eq_some_iff.1 h
    split at h
    · rename_i hlen
      cases h
      exact ⟨hxs, hys, hlen⟩
    · cases h
  · rintro ⟨hxs, hys, hlen⟩
    refine Option.bind_eq_some_iff.2 ⟨columns, hxs, Option.bind_eq_some_iff.2 ⟨foreignColumns, hys, ?_⟩⟩
    exact if_pos hlen

/-- The columns of a key can be paired when the numbers are known, as many of both and at least one. -/
theorem exists_columnPairs?_iff {owner : NormalizedRelation} {c : ClassRow} :
    (∃ pairs, columnPairs? s owner c r = some pairs) ↔
      r.numbers ≠ [] ∧ r.numbers.length = r.foreignNumbers.length ∧
      (∀ number ∈ r.numbers, ∃ column ∈ owner.columns, column.number = number) ∧
      ∀ number ∈ r.foreignNumbers, ∃ a ∈ s.rows.liveAttributes c.oid, a.number = number := by
  rw [← NormalizedRelation.exists_columnNames?_iff, ← Snapshot.exists_liveColumnNames?_iff]
  have hlength {columns : List String} (h : owner.columnNames? r.numbers = some columns) :
      columns.length = r.numbers.length := length_of_mapM h
  have hforeign {columns : List String} (h : s.liveColumnNames? c r.foreignNumbers = some columns) :
      columns.length = r.foreignNumbers.length := length_of_mapM h
  constructor
  · rintro ⟨⟨columns, foreignColumns⟩, h⟩
    obtain ⟨hcolumns, hforeignColumns, hne, hlen⟩ := columnPairs?_eq_some_iff.1 h
    refine ⟨ne_nil_of_length_eq (hlength hcolumns) hne, ?_, ⟨columns, hcolumns⟩,
      ⟨foreignColumns, hforeignColumns⟩⟩
    rw [← hlength hcolumns, ← hforeign hforeignColumns, hlen]
  · rintro ⟨hne, hlen, ⟨columns, hcolumns⟩, ⟨foreignColumns, hforeignColumns⟩⟩
    have hne' : columns ≠ [] := ne_nil_of_length_eq (hlength hcolumns).symm hne
    refine ⟨(columns, foreignColumns), columnPairs?_eq_some_iff.2 ⟨hcolumns, hforeignColumns, hne', ?_⟩⟩
    rw [hlength hcolumns, hforeign hforeignColumns, hlen]

/-- All that makes a constraint resolved, and what it is resolved to. -/
theorem standing_eq_resolved_iff {k : ForeignKey} : standing s relations excluded r = .resolved k ↔
    r.kind = kind ∧ ∃ owner c n columns foreignColumns, relations.find? r.relation = some owner ∧
      target? s excluded r = some (c, n) ∧
      columnPairs? s owner c r = some (columns, foreignColumns) ∧
      k = ⟨owner.id, r.name, columns, c.oid, n.name, c.name, foreignColumns⟩ := by
  unfold standing
  constructor
  · intro h
    split at h
    · rename_i hkind
      split at h
      · cases h
      · rename_i owner howner
        split at h
        · cases h
        · rename_i c n htarget
          split at h
          · cases h
          · rename_i columns foreignColumns hpairs
            cases h
            exact ⟨hkind, owner, c, n, columns, foreignColumns, howner, htarget, hpairs, rfl⟩
    · cases h
  · rintro ⟨hkind, owner, c, n, columns, foreignColumns, howner, htarget, hpairs, rfl⟩
    simp only [if_pos hkind, howner, htarget, hpairs]

theorem resolved?_eq_some_iff {standing : Standing} {k : ForeignKey} :
    resolved? (r, standing) = some k ↔ standing = .resolved k := by
  cases standing <;> simp [resolved?]

/-- Where identifiers are distinct, the relation referred to is the one with the identifier, and its
namespace the one of its own. -/
theorem target?_eq_some_iff_mem (hn : (s.rows.namespaces.map NamespaceRow.oid).Nodup)
    (hc : (s.rows.classes.map ClassRow.oid).Nodup) {c : ClassRow} {n : NamespaceRow} :
    target? s excluded r = some (c, n) ↔ (c ∈ s.rows.classes ∧ c.oid = r.foreignRelation) ∧
      (n ∈ s.rows.namespaces ∧ n.oid = c.schema) ∧ n.name ∉ excluded := by
  rw [target?_eq_some_iff, Snapshot.class?_eq, Snapshot.namespace?_eq,
    OrderedMap.find?_indexBy_eq_some_iff hc, OrderedMap.find?_indexBy_eq_some_iff hn]

/-- The constraints that are resolved are the resolvable ones. -/
theorem isSome_resolved?_iff (hn : (s.rows.namespaces.map NamespaceRow.oid).Nodup)
    (hc : (s.rows.classes.map ClassRow.oid).Nodup) :
    (resolved? (r, standing s relations excluded r)).isSome ↔ r.IsResolvable s relations excluded := by
  rw [Option.isSome_iff_exists]
  simp only [resolved?_eq_some_iff, standing_eq_resolved_iff, target?_eq_some_iff_mem hn hc]
  constructor
  · rintro ⟨k, hkind, owner, c, n, columns, foreignColumns, howner, ⟨⟨hcm, hco⟩, ⟨hnm, hno⟩, hexcluded⟩,
      hpairs, -⟩
    obtain ⟨hne, hlen, hnumbers, hforeign⟩ := exists_columnPairs?_iff.1 ⟨_, hpairs⟩
    have hne' : r.foreignNumbers ≠ [] := ne_nil_of_length_eq hlen hne
    have hentry : (r.relation, owner) ∈ relations.entries := OrderedMap.find?_eq_some_iff.1 howner
    exact ⟨hkind, hne, hne', hlen, ⟨_, hentry, rfl, hnumbers⟩, c, hcm, hco, ⟨n, hnm, hno, hexcluded⟩,
      hforeign⟩
  · rintro ⟨hkind, hne, -, hlen, ⟨⟨id, owner⟩, hentry, rfl, hnumbers⟩, c, hcm, hco,
      ⟨n, hnm, hno, hexcluded⟩, hforeign⟩
    obtain ⟨⟨columns, foreignColumns⟩, hpairs⟩ :=
      exists_columnPairs?_iff.2 ⟨hne, hlen, hnumbers, hforeign⟩
    exact ⟨_, hkind, owner, c, n, columns, foreignColumns, OrderedMap.find?_eq_some_iff.2 hentry,
      ⟨⟨hcm, hco⟩, ⟨hnm, hno⟩, hexcluded⟩, hpairs, rfl⟩

/-- What a constraint is resolved to says what the constraint says. -/
theorem describes_of_resolved? (hn : (s.rows.namespaces.map NamespaceRow.oid).Nodup)
    (hc : (s.rows.classes.map ClassRow.oid).Nodup)
    (ha : (s.rows.attributes.map fun a => (a.relation, a.number)).Nodup) {types : Classification}
    {hidden : List String} (hrelations : relations = NormalizedRelation.ofSnapshot s types hidden)
    {k : ForeignKey} (h : resolved? (r, standing s relations excluded r) = some k) :
    r.Describes s relations k := by
  obtain ⟨-, owner, c, n, columns, foreignColumns, howner, htarget, hpairs, rfl⟩ :=
    standing_eq_resolved_iff.1 (resolved?_eq_some_iff.1 h)
  obtain ⟨⟨hcm, hco⟩, ⟨hnm, hno⟩, -⟩ := (target?_eq_some_iff_mem hn hc).1 htarget
  obtain ⟨hcolumns, hforeign, -, -⟩ := columnPairs?_eq_some_iff.1 hpairs
  have hentry : (r.relation, owner) ∈ relations.entries := OrderedMap.find?_eq_some_iff.1 howner
  rw [hrelations, NormalizedRelation.mem_entries_ofSnapshot hc] at hentry
  obtain ⟨d, -, hid, hstanding⟩ := hentry
  have hdistinct := NormalizedRelation.nodup_numbers_of_standing ha hstanding
  refine ⟨?_, rfl, ⟨owner, howner, ?_⟩, hco, ⟨c, hcm, hco, rfl, n, hnm, hno, rfl⟩, ?_⟩
  · exact (ClassRow.of_standing hstanding).1.trans hid.symm
  · exact (NormalizedRelation.columnNames?_eq_some_iff hdistinct).1 hcolumns
  · rw [← hco]
    exact (Snapshot.liveColumnNames?_eq_some_iff ha).1 hforeign

/-- Every resolvable constraint gives one foreign key, which says what it says, and no other constraint
gives any; they come in the order of their relations and names, and of those that tie in the order of the
rows. -/
theorem foreign_keys_exact (s : Snapshot) (types : Classification) (hidden excluded : List String)
    (hn : (s.rows.namespaces.map NamespaceRow.oid).Nodup)
    (hc : (s.rows.classes.map ClassRow.oid).Nodup)
    (ha : (s.rows.attributes.map fun a => (a.relation, a.number)).Nodup) :
    ∃ resolvable, IsStableSort (fun r => toLex (r.relation, r.name))
      (s.rows.constraints.filter fun r =>
        r.IsResolvable s (NormalizedRelation.ofSnapshot s types hidden) excluded) resolvable ∧
      List.Forall₂ (ConstraintRow.Describes s (NormalizedRelation.ofSnapshot s types hidden)) resolvable
        (ofSnapshot s (NormalizedRelation.ofSnapshot s types hidden) excluded) := by
  let relations := NormalizedRelation.ofSnapshot s types hidden
  let result? (r : ConstraintRow) : Option ForeignKey := resolved? (r, standing s relations excluded r)
  let resolvable := (ConstraintRow.inOrder s.rows.constraints).filter fun r => (result? r).isSome
  refine ⟨resolvable, ?_, ?_⟩
  · have hsort : resolvable = sortOn (fun r => toLex (r.relation, r.name))
        (s.rows.constraints.filter fun r => r.IsResolvable s relations excluded) := by
      have hfilter : resolvable = (ConstraintRow.inOrder s.rows.constraints).filter fun r =>
          r.IsResolvable s relations excluded := by
        refine List.filter_congr fun r _ => ?_
        rw [Bool.eq_iff_iff, decide_eq_true_iff]
        exact isSome_resolved?_iff hn hc
      rw [hfilter, ConstraintRow.inOrder, filter_sortBy]
      rfl
    rw [hsort]
    exact isStableSort_sortOn _ _
  · have hresults : ofSnapshot s relations excluded =
        (ConstraintRow.inOrder s.rows.constraints).filterMap result? := by
      rw [ofSnapshot, standings, List.filterMap_map]
      rfl
    rw [hresults]
    refine (forall₂_filterMap result? _).imp fun r k hk => ?_
    exact describes_of_resolved? hn hc ha rfl hk

end ForeignKey

/-- The small catalog with pairs, to which the orders refer by two columns: in the order of the pair and by
one column for both. One more key is over a column that is not there. -/
def CatalogRows.keyedSample : CatalogRows :=
  { CatalogRows.sample with
    classes := CatalogRows.sample.classes ++ [⟨16400, "pairs", 2200, "r"⟩]
    attributes := CatalogRows.sample.attributes ++
      [⟨16400, "x", 1, 23, true, false, "", "", false⟩, ⟨16400, "y", 2, 23, true, false, "", "", false⟩,
       ⟨16400, "z", 3, 23, false, false, "", "", true⟩]
    constraints := CatalogRows.sample.constraints ++
      [⟨16401, "pairs_pkey", "p", 16400, 0, some [1, 2], none⟩,
       ⟨16402, "pairs_z_key", "u", 16400, 0, some [3, 1], none⟩,
       ⟨16403, "orders_item_id_key", "u", 16390, 0, some [2, 1], none⟩,
       ⟨16404, "orders_pair_fkey", "f", 16390, 16400, some [2, 1], some [1, 2]⟩,
       ⟨16405, "orders_both_fkey", "f", 16390, 16400, some [2, 2], some [1, 2]⟩,
       ⟨16406, "orders_z_fkey", "f", 16390, 16400, some [1], some [3]⟩] }

def Snapshot.keyedSample : Snapshot := ⟨.keyedSample, 1259, .ofRows .keyedSample, by decide, rfl⟩

/-- The key to a column that was dropped is left out; the one to the view, which is not normalized, is
resolved with the others. -/
theorem dropped_column_is_not_referred_to :
    (Snapshot.keyedSample.rows.namespaces.map NamespaceRow.oid).Nodup ∧
      (Snapshot.keyedSample.rows.classes.map ClassRow.oid).Nodup ∧
      (Snapshot.keyedSample.rows.attributes.map fun a => (a.relation, a.number)).Nodup ∧
      let relations := NormalizedRelation.ofSnapshot .keyedSample Snapshot.keyedSample.types []
      ¬ ConstraintRow.IsResolvable .keyedSample relations []
        ⟨16406, "orders_z_fkey", "f", 16390, 16400, some [1], some [3]⟩ ∧
      (ForeignKey.ofSnapshot .keyedSample relations []).length = 4 := by
  have hn : (Snapshot.keyedSample.rows.namespaces.map NamespaceRow.oid).Nodup := by decide
  have hc : (Snapshot.keyedSample.rows.classes.map ClassRow.oid).Nodup := by decide
  have ha : (Snapshot.keyedSample.rows.attributes.map fun a => (a.relation, a.number)).Nodup := by decide
  obtain ⟨resolvable, hsort, hkeys⟩ :=
    ForeignKey.foreign_keys_exact .keyedSample Snapshot.keyedSample.types [] [] hn hc ha
  refine ⟨hn, hc, ha, by decide +kernel, ?_⟩
  rw [← hkeys.length_eq, hsort.perm.length_eq]
  decide +kernel

end CatalogSchema
