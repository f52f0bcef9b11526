import CatalogSchema.Proofs.Catalog.Lookup
import CatalogSchema.Proofs.Settlement
import CatalogSchema.Schema.Resolution

/-!
# Each table by itself

The tables of a schema are built from lists over all relations. Seen from one relation, though, its table
depends only on the relation, on its own constraints and on the relations that these refer to
(`NormalizedRelation.table`). The main statement is `tables_buildSchema`: the tables of a schema are those
of the relations that win their exposed name.
-/

namespace CatalogSchema

/-! ## The constraints of one relation -/

/-- The constraints of a relation, by name. -/
def Snapshot.constraintsOf (s : Snapshot) (relation : Int) : List ConstraintRow :=
  sortOn ConstraintRow.name (s.rows.constraints.filter (·.relation = relation))

theorem ConstraintRow.filter_inOrder (rows : List ConstraintRow) (relation : Int) :
    (inOrder rows).filter (·.relation = relation) =
      sortOn name (rows.filter (·.relation = relation)) := by
  rw [inOrder, filter_sortBy]
  refine sortBy_congr fun x hx y hy => ?_
  have hx' : x.relation = relation := of_decide_eq_true (List.mem_filter.1 hx).2
  have hy' : y.relation = relation := of_decide_eq_true (List.mem_filter.1 hy).2
  simp [byTwo, compareLex, compareOn, hx', hy']

section Owned

variable {γ : Type} {own : NormalizedRelation → ConstraintRow → Option (String × γ)}

/-- What constraints say about their owners, as entries under the owner and the constraint's name. -/
def ownedEntries (own : NormalizedRelation → ConstraintRow → Option (String × γ))
    (relations : OrderedMap Int NormalizedRelation) (rows : List ConstraintRow) :
    List (Int × String × γ) :=
  (ConstraintRow.inOrder rows).filterMap fun c =>
    (relations.find? c.relation).bind fun owner => (own owner c).map fun e => (owner.id, e)

/-- The entries under a relation come of its own constraints. -/
theorem find?_nest_ownedEntries {relations : OrderedMap Int NormalizedRelation}
    (hid : ∀ k r, relations.find? k = some r → r.id = k) {r : NormalizedRelation}
    (hr : relations.find? r.id = some r) (rows : List ConstraintRow) :
    ((OrderedMap.nest (ownedEntries own relations rows)).find? r.id).getD .empty =
      .ofList ((sortOn ConstraintRow.name (rows.filter (·.relation = r.id))).filterMap (own r)) := by
  rw [OrderedMap.find?_nest, ownedEntries, List.filter_filterMap, List.map_filterMap,
    ← ConstraintRow.filter_inOrder, List.filterMap_filter]
  congr 2
  funext c
  by_cases hc : c.relation = r.id
  · rw [hc, hr, if_pos (by simp)]
    cases ho : own r c <;> simp [ho]
  · rw [if_neg (by simpa using hc)]
    cases ho : relations.find? c.relation with
    | none => rfl
    | some owner =>
      have hne : ¬ owner.id = r.id := by rw [hid _ _ ho]; exact hc
      cases hw : own owner c <;> simp [hw, hne]

end Owned

/-- The uniqueness constraint of a relation that a row stands for, under its name. -/
def UniquenessConstraint.listed? (owner : NormalizedRelation) (r : ConstraintRow) :
    Option (String × List String) :=
  if r.kind ∈ kinds ∧ r.key.getD [] ≠ [] then
    (owner.columnNames? (r.key.getD [])).map fun columns => (r.name, columns)
  else none

/-- The foreign key of a relation that a row stands for, under its name. -/
def ForeignKey.listed? (s : Snapshot) (excluded : List String) (owner : NormalizedRelation)
    (r : ConstraintRow) : Option (String × ForeignRelation) :=
  if r.kind = kind then
    (target? s excluded r).bind fun target =>
      (columnPairs? s owner target.1 r).map fun pairs =>
        (r.name, ⟨target.2.name, target.1.name, .ofList (pairs.1.zip pairs.2)⟩)
  else none

theorem UniquenessConstraint.listed?_eq_some_iff {owner : NormalizedRelation} {r : ConstraintRow}
    {e : String × List String} : listed? owner r = some e ↔ r.kind ∈ kinds ∧ r.name = e.1 ∧
      r.key.getD [] ≠ [] ∧ owner.columnNames? (r.key.getD []) = some e.2 := by
  unfold listed?
  constructor
  · intro h
    split at h
    · rename_i hr
      obtain ⟨columns, hcolumns, rfl⟩ := Option.map_eq_some_iff.1 h
      exact ⟨hr.1, rfl, hr.2, hcolumns⟩
    · cases h
  · rintro ⟨hkind, hname, hne, hcolumns⟩
    rw [if_pos ⟨hkind, hne⟩]
    exact Option.map_eq_some_iff.2 ⟨e.2, hcolumns, Prod.ext hname rfl⟩

theorem ForeignKey.pairs_of_listed? {s : Snapshot} {excluded : List String} {owner : NormalizedRelation}
    {r : ConstraintRow} {e : String × ForeignRelation} (h : listed? s excluded owner r = some e) :
    e.1 = r.name ∧ ∃ c n columns foreignColumns, target? s excluded r = some (c, n) ∧
      columnPairs? s owner c r = some (columns, foreignColumns) ∧
      e.2 = ⟨n.name, c.name, .ofList (columns.zip foreignColumns)⟩ := by
  unfold listed? at h
  split at h
  · obtain ⟨⟨c, n⟩, ht, h⟩ := Option.bind_eq_some_iff.1 h
    obtain ⟨⟨columns, foreignColumns⟩, hpairs, rfl⟩ := Option.map_eq_some_iff.1 h
    exact ⟨rfl, c, n, columns, foreignColumns, ht, hpairs, rfl⟩
  · cases h

theorem UniquenessConstraint.resolved?_standing (relations : OrderedMap Int NormalizedRelation)
    (r : ConstraintRow) :
    (resolved? (r, standing relations r)).map entry =
      (relations.find? r.relation).bind fun owner => (listed? owner r).map fun e => (owner.id, e) := by
  unfold standing listed?
  by_cases hk : r.kind ∈ kinds
  · rw [if_pos hk]
    cases ho : relations.find? r.relation with
    | none => rfl
    | some owner =>
      cases hkey : r.key.getD [] with
      | nil => simp [resolved?]
      | cons n ns => cases hc : owner.columnNames? (n :: ns) <;> simp [resolved?, entry, hk, hc]
  · rw [if_neg hk]
    cases relations.find? r.relation <;> simp [resolved?, hk]

theorem UniquenessConstraint.map_entry_standings (rows : List ConstraintRow)
    (relations : OrderedMap Int NormalizedRelation) :
    ((standings rows relations).filterMap resolved?).map entry =
      ownedEntries listed? relations rows := by
  rw [standings, List.filterMap_map, List.map_filterMap, ownedEntries]
  exact congrArg (List.filterMap · _) (funext fun r => resolved?_standing relations r)

theorem ForeignKey.resolved?_standing (s : Snapshot) (relations : OrderedMap Int NormalizedRelation)
    (excluded : List String) (r : ConstraintRow) :
    (resolved? (r, standing s relations excluded r)).map entry =
      (relations.find? r.relation).bind fun owner =>
        (listed? s excluded owner r).map fun e => (owner.id, e) := by
  unfold standing listed?
  by_cases hk : r.kind = kind
  · rw [if_pos hk]
    cases ho : relations.find? r.relation with
    | none => rfl
    | some owner =>
      cases ht : target? s excluded r with
      | none => simp [resolved?]
      | some target =>
        cases hp : columnPairs? s owner target.1 r <;>
          simp [resolved?, entry, toRelation, hk, hp]
  · rw [if_neg hk]
    cases relations.find? r.relation <;> simp [resolved?, hk]

theorem ForeignKey.map_entry_standings (s : Snapshot) (relations : OrderedMap Int NormalizedRelation)
    (excluded : List String) :
    ((standings s relations excluded).filterMap resolved?).map entry =
      ownedEntries (listed? s excluded) relations s.rows.constraints := by
  rw [standings, List.filterMap_map, List.map_filterMap, ownedEntries]
  exact congrArg (List.filterMap · _) (funext fun r => resolved?_standing s relations excluded r)

/-! ## The tables of a schema -/

/-- The table of a relation, with its own constraints. -/
def NormalizedRelation.table (s : Snapshot) (excluded : List String) (r : NormalizedRelation) :
    Table where
  schema := r.schemaName
  name := r.name
  description := r.description
  columns := r.columnMap
  uniqueness := (OrderedMap.ofList
    ((s.constraintsOf r.id).filterMap (UniquenessConstraint.listed? r))).sortByKey
  foreignRelations := (OrderedMap.ofList
    ((s.constraintsOf r.id).filterMap (ForeignKey.listed? s excluded r))).sortByKey

/-- The normalized relations of a snapshot. -/
def Snapshot.relations (s : Snapshot) (excluded : List String) : OrderedMap Int NormalizedRelation :=
  NormalizedRelation.ofSnapshot s s.types excluded

/-- Relations are listed under their identifiers. -/
theorem Snapshot.id_of_find?_relations {s : Snapshot} {excluded : List String} {k : Int}
    {r : NormalizedRelation} (h : (s.relations excluded).find? k = some r) : r.id = k := by
  have hm := OrderedMap.mem_of_mem_entries_ofList (OrderedMap.find?_eq_some_iff.1 h)
  obtain ⟨⟨c, standing⟩, -, hs⟩ := List.mem_filterMap.1 hm
  cases standing <;> simp [NormalizedRelation.find?] at hs
  obtain ⟨rfl, rfl⟩ := hs
  rfl

theorem Snapshot.find?_relations_of_mem {s : Snapshot} {excluded : List String}
    {r : NormalizedRelation} (h : r ∈ (s.relations excluded).values) :
    (s.relations excluded).find? r.id = some r := by
  obtain ⟨⟨k, r'⟩, he, rfl⟩ := List.mem_map.1 h
  have hf := OrderedMap.find?_eq_some_iff.2 he
  rw [id_of_find?_relations hf]
  exact hf

/-- The relations that win the name that they would be exposed by. -/
def tableWinners (relations : List NormalizedRelation) (unqualified : List String) :
    List NormalizedRelation :=
  Bid.winners (TableBids.ofRelations relations unqualified).bids

theorem mem_of_mem_tableWinners {relations : List NormalizedRelation} {unqualified : List String}
    {r : NormalizedRelation} (h : r ∈ tableWinners relations unqualified) : r ∈ relations :=
  mem_sortBy.1 ((Bid.sublist_winners_settle _ _ _).subset h)

/-- No two tables have one name. -/
theorem nodup_tableWinners (relations : List NormalizedRelation) (unqualified : List String) :
    ((tableWinners relations unqualified).map (·.exposedName unqualified)).Nodup :=
  Bid.nodup_winners_settle _

/-- The tables of a schema are those of the relations that win their exposed name. -/
theorem tables_buildSchema (s : Snapshot) (o : Options) :
    (buildSchema s o).tables =
      (OrderedMap.ofList
        ((tableWinners (s.relations o.excludedSchemas).values o.unqualifiedSchemas).map fun r =>
          (r.exposedName o.unqualifiedSchemas, r.table s o.excludedSchemas))).sortByKey := by
  let relations := s.relations o.excludedSchemas
  show ((TableBids.ofRelations relations.values o.unqualifiedSchemas).tables
    ((UniquenessConstraint.standings s.rows.constraints relations).filterMap
      UniquenessConstraint.resolved?)
    ((ForeignKey.standings s relations o.excludedSchemas).filterMap ForeignKey.resolved?)) = _
  unfold TableBids.tables
  rw [UniquenessConstraint.map_entry_standings, ForeignKey.map_entry_standings]
  refine congrArg OrderedMap.sortByKey (congrArg OrderedMap.ofList (List.map_congr_left ?_))
  intro r hr
  have hid : ∀ k r, relations.find? k = some r → r.id = k := fun _ _ =>
    Snapshot.id_of_find?_relations
  have hf : relations.find? r.id = some r :=
    Snapshot.find?_relations_of_mem (mem_of_mem_tableWinners hr)
  simp only [find?_nest_ownedEntries hid hf]
  rfl

section

variable {s : Snapshot} {o : Options} {name : String}

/-- Under a name stands the table of the relation that wins it. -/
theorem find?_tables_eq_some_iff {table : Table} :
    (buildSchema s o).tables.find? name = some table ↔
      ∃ r ∈ tableWinners (s.relations o.excludedSchemas).values o.unqualifiedSchemas,
        r.exposedName o.unqualifiedSchemas = name ∧ r.table s o.excludedSchemas = table := by
  rw [tables_buildSchema, OrderedMap.find?_sortByKey, OrderedMap.find?_ofList_eq_some_iff, List.mem_map]
  · simp only [Prod.mk.injEq]
  · rw [List.map_map]
    exact nodup_tableWinners _ _

theorem mem_keys_tables :
    name ∈ (buildSchema s o).tables.keys ↔
      ∃ r ∈ tableWinners (s.relations o.excludedSchemas).values o.unqualifiedSchemas,
        r.exposedName o.unqualifiedSchemas = name := by
  rw [← not_iff_not, ← OrderedMap.find?_eq_none_iff, Option.eq_none_iff_forall_ne_some]
  simp only [ne_eq, find?_tables_eq_some_iff, not_exists, not_and]
  exact ⟨fun h r hr hname => h _ r hr hname rfl, fun h _ r hr hname _ => h r hr hname⟩

end

end CatalogSchema
