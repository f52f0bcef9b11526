import CatalogSchema.Proofs.Relation.Normalization

/-!
# Columns by their numbers

Constraints refer to columns by their numbers. Where no relation has two columns of one number, a number
stands for one name or for none (`CatalogRows.NamesColumn`), and both ways to look it up find that name:
among the columns of a normalized relation, where the first match counts, and among the live columns of the
snapshot, where the last does. A list of numbers is looked up position by position (`mapM_eq_some_iff`), so
the two ways agree on every list (`columns_are_named_alike`).
-/

namespace CatalogSchema

/-! ## Position by position -/

section MapM

variable {α β : Type} {f : α → Option β}

/-- A list is looked up when each member is, and the results stand in the places of the members. -/
theorem mapM_eq_some_iff {xs : List α} {ys : List β} :
    xs.mapM f = some ys ↔ List.Forall₂ (fun x y => f x = some y) xs ys := by
  induction xs generalizing ys with
  | nil =>
    rw [List.mapM_nil, List.forall₂_nil_left_iff]
    exact ⟨fun h => (Option.some.inj h).symm, fun h => h ▸ rfl⟩
  | cons x xs ih =>
    rw [List.mapM_cons, List.forall₂_cons_left_iff]
    constructor
    · intro h
      obtain ⟨y, hy, h⟩ := Option.bind_eq_some_iff.1 h
      obtain ⟨zs, hzs, h⟩ := Option.bind_eq_some_iff.1 h
      exact ⟨y, zs, hy, ih.1 hzs, (Option.some.inj h).symm⟩
    · rintro ⟨y, zs, hy, hzs, rfl⟩
      rw [hy, Option.bind_eq_bind, Option.bind_some, ih.2 hzs]
      rfl

theorem length_of_mapM {xs : List α} {ys : List β} (h : xs.mapM f = some ys) :
    ys.length = xs.length := (mapM_eq_some_iff.1 h).length_eq.symm

theorem ne_nil_of_length_eq {xs : List α} {ys : List β} (h : xs.length = ys.length) (hx : xs ≠ []) :
    ys ≠ [] := by
  rw [← List.length_pos_iff] at hx ⊢
  rwa [← h]

theorem exists_of_mem_mapM {xs : List α} {ys : List β} (h : xs.mapM f = some ys) {y : β}
    (hy : y ∈ ys) : ∃ x ∈ xs, f x = some y := by
  have hpairs := mapM_eq_some_iff.1 h
  clear h
  induction hpairs with
  | nil => cases hy
  | @cons x z xs zs hx _ ih =>
    rcases List.mem_cons.1 hy with rfl | hy
    · exact ⟨x, List.mem_cons_self, hx⟩
    · obtain ⟨w, hw, hf⟩ := ih hy
      exact ⟨w, List.mem_cons_of_mem x hw, hf⟩

/-- A list is looked up when each member is. -/
theorem exists_mapM_iff {xs : List α} : (∃ ys, xs.mapM f = some ys) ↔ ∀ x ∈ xs, ∃ y, f x = some y := by
  induction xs with
  | nil => simp
  | cons x xs ih =>
    simp only [mapM_eq_some_iff, List.forall₂_cons_left_iff] at ih ⊢
    rw [List.forall_mem_cons, ← ih]
    constructor
    · rintro ⟨ys, y, zs, hy, hzs, rfl⟩
      exact ⟨⟨y, hy⟩, zs, hzs⟩
    · rintro ⟨⟨y, hy⟩, zs, hzs⟩
      exact ⟨y :: zs, y, zs, hy, hzs, rfl⟩

end MapM

/-! ## The name of a number -/

/-- One live column of the relation has the number, and it goes by the name. -/
def CatalogRows.NamesColumn (rows : CatalogRows) (relation number : Int) (name : String) : Prop :=
  ((rows.liveAttributes relation).filter (·.number = number)).map AttributeRow.name = [name]

instance (rows : CatalogRows) (relation number : Int) (name : String) :
    Decidable (rows.NamesColumn relation number name) := inferInstanceAs (Decidable (_ = _))

/-- One column of the normalized relation has the number, and it goes by the name. -/
def NormalizedRelation.NamesColumn (r : NormalizedRelation) (number : Int) (name : String) : Prop :=
  (r.columns.filter (·.number = number)).map (·.info.name) = [name]

instance (r : NormalizedRelation) (number : Int) (name : String) :
    Decidable (r.NamesColumn number name) := inferInstanceAs (Decidable (_ = _))

section Names

variable {s : Snapshot} {number : Int} {name : String}

theorem CatalogRows.nodup_liveNumbers {rows : CatalogRows}
    (ha : (rows.attributes.map fun a => (a.relation, a.number)).Nodup) (relation : Int) :
    ((rows.liveAttributes relation).map AttributeRow.number).Nodup := by
  have hsub : (rows.liveAttributes relation).Sublist (rows.attributes.filter (·.relation = relation)) := by
    refine List.monotone_filter_right rows.attributes fun a hlive => ?_
    exact decide_eq_true (of_decide_eq_true hlive).1
  exact (hsub.map _).nodup (nodup_map_filter ha relation)

theorem CatalogRows.namesColumn_iff {rows : CatalogRows}
    (ha : (rows.attributes.map fun a => (a.relation, a.number)).Nodup) {relation : Int} :
    rows.NamesColumn relation number name ↔
      ∃ a ∈ rows.liveAttributes relation, a.number = number ∧ a.name = name :=
  map_filter_key_eq_singleton_iff (nodup_liveNumbers ha relation)

/-- In the snapshot a number is looked up among the live columns of the relation. -/
theorem Snapshot.find?_liveNames_eq_some_iff
    (ha : (s.rows.attributes.map fun a => (a.relation, a.number)).Nodup) {c : ClassRow} :
    (s.liveNames c).find? number = some name ↔ s.rows.NamesColumn c.oid number name := by
  have hperm : (c.liveAttributes s).Perm (s.rows.liveAttributes c.oid) :=
    (s.isStableSort_liveAttributes c).perm
  have hnodup : (((c.liveAttributes s).map fun a => (a.number, a.name)).map Prod.fst).Nodup := by
    rw [List.map_map]
    exact (hperm.map _).nodup_iff.2 (CatalogRows.nodup_liveNumbers ha c.oid)
  rw [liveNames, OrderedMap.find?_ofList_eq_some_iff hnodup, CatalogRows.namesColumn_iff ha, List.mem_map]
  simp only [hperm.mem_iff, Prod.mk.injEq]

theorem Snapshot.liveColumnNames?_eq_some_iff
    (ha : (s.rows.attributes.map fun a => (a.relation, a.number)).Nodup) {c : ClassRow}
    {numbers : List Int} {names : List String} : s.liveColumnNames? c numbers = some names ↔
      List.Forall₂ (s.rows.NamesColumn c.oid) numbers names := by
  rw [liveColumnNames?, mapM_eq_some_iff]
  simp only [find?_liveNames_eq_some_iff ha]

/-- A list of numbers is known to the snapshot when each is that of a live column. -/
theorem Snapshot.exists_liveColumnNames?_iff {c : ClassRow} {numbers : List Int} :
    (∃ names, s.liveColumnNames? c numbers = some names) ↔
      ∀ number ∈ numbers, ∃ a ∈ s.rows.liveAttributes c.oid, a.number = number := by
  unfold liveColumnNames?
  rw [exists_mapM_iff]
  refine forall₂_congr fun number _ => ?_
  rw [← Option.isSome_iff_exists, OrderedMap.isSome_find?_iff, liveNames, OrderedMap.mem_keys_ofList,
    List.map_map, List.mem_map]
  simp only [(s.isStableSort_liveAttributes c).perm.mem_iff, Function.comp_apply]

end Names

/-! ## Normalized relations -/

/-- A normalized relation has the name of its row, and columns, which are all its live ones. -/
theorem ClassRow.columns_of_standing {s : Snapshot} {types : Classification} {name : String}
    {c : ClassRow} {r : NormalizedRelation} (h : c.standing s types name = .normalized r) :
    r.name = c.name ∧ r.columns ≠ [] ∧
      r.columns.map (fun column => (column.number, column.info.name)) =
        (c.liveAttributes s).map fun a => (a.number, a.name) := by
  have hcolumns := forall₂_columns_of_standing h
  obtain ⟨hlive, -, hr⟩ := standing_eq_normalized_iff.1 h
  refine ⟨by rw [hr], fun hnil => ?_, ?_⟩
  · rw [hnil, List.forall₂_nil_right_iff] at hcolumns
    exact hlive hcolumns
  · apply Eq.symm
    rw [← List.forall₂_eq_eq_eq, List.forall₂_map_left_iff, List.forall₂_map_right_iff]
    apply hcolumns.imp
    intro a column h
    rw [h.number, h.name]

namespace NormalizedRelation

variable {s : Snapshot} {types : Classification} {schemaName : String} {c : ClassRow}
  {r : NormalizedRelation}

theorem nodup_numbers_of_standing (ha : (s.rows.attributes.map fun a => (a.relation, a.number)).Nodup)
    (h : c.standing s types schemaName = .normalized r) : (r.columns.map (·.number)).Nodup := by
  obtain ⟨-, -, hcolumns⟩ := ClassRow.columns_of_standing h
  have hnumbers : r.columns.map (·.number) = (c.liveAttributes s).map AttributeRow.number := by
    simpa [List.map_map, Function.comp_def] using congrArg (List.map Prod.fst) hcolumns
  rw [hnumbers]
  exact ((s.isStableSort_liveAttributes c).perm.map _).nodup_iff.2 (CatalogRows.nodup_liveNumbers ha c.oid)

/-- The columns of a normalized relation go by the names that they have in the snapshot. -/
theorem namesColumn_iff_of_standing
    (ha : (s.rows.attributes.map fun a => (a.relation, a.number)).Nodup)
    (h : c.standing s types schemaName = .normalized r) {number : Int} {name : String} :
    r.NamesColumn number name ↔ s.rows.NamesColumn c.oid number name := by
  obtain ⟨-, -, hcolumns⟩ := ClassRow.columns_of_standing h
  have hcolumn : (∃ column ∈ r.columns, column.number = number ∧ column.info.name = name) ↔
      (number, name) ∈ r.columns.map fun column => (column.number, column.info.name) := by
    simp only [List.mem_map, Prod.mk.injEq]
  have hrow : (∃ a ∈ s.rows.liveAttributes c.oid, a.number = number ∧ a.name = name) ↔
      (number, name) ∈ (c.liveAttributes s).map fun a => (a.number, a.name) := by
    simp only [List.mem_map, Prod.mk.injEq, (s.isStableSort_liveAttributes c).perm.mem_iff]
  unfold NamesColumn
  rw [map_filter_key_eq_singleton_iff (nodup_numbers_of_standing ha h), hcolumn, hcolumns, ← hrow,
    CatalogRows.namesColumn_iff ha]

/-- In a normalized relation a number is looked up among its columns. -/
theorem columnNames?_eq_some_iff (hr : (r.columns.map (·.number)).Nodup) {numbers : List Int}
    {names : List String} : r.columnNames? numbers = some names ↔
      List.Forall₂ r.NamesColumn numbers names := by
  have hname (number : Int) (name : String) :
      r.columnName? number = some name ↔ r.NamesColumn number name := by
    rw [columnName?, Option.map_eq_some_iff, NamesColumn, map_filter_key_eq_singleton_iff hr]
    simp only [find?_key_eq_some_iff hr, and_assoc]
  rw [columnNames?, mapM_eq_some_iff]
  simp only [hname]

theorem exists_columnNames?_iff {numbers : List Int} :
    (∃ names, r.columnNames? numbers = some names) ↔
      ∀ number ∈ numbers, ∃ column ∈ r.columns, column.number = number := by
  unfold columnNames?
  rw [exists_mapM_iff]
  refine forall₂_congr fun number _ => ?_
  rw [← Option.isSome_iff_exists, columnName?, Option.isSome_map, List.find?_isSome]
  simp only [decide_eq_true_eq]

/-! ## The normalized relations of a snapshot -/

variable {excluded : List String} {id : Int}

/-- What a relation is normalized to under an identifier stems from a row with that identifier. -/
theorem exists_standing_of_find? (hr : (ofSnapshot s types excluded).find? id = some r) :
    ∃ (c : ClassRow) (name : String), c.oid = id ∧ c.standing s types name = .normalized r := by
  have hentry := OrderedMap.mem_of_mem_entries_ofList (OrderedMap.find?_eq_some_iff.1 hr)
  obtain ⟨⟨c, standing⟩, hc, he⟩ := List.mem_filterMap.1 hentry
  obtain ⟨d, -, hd⟩ := List.mem_map.1 hc
  cases hd
  obtain ⟨hid, hstanding⟩ := find?_standing_eq_some_iff.1 he
  exact ⟨c, _, hid.symm, hstanding⟩

/-- The names of columns of a normalized relation are those that its live columns have in the snapshot. -/
theorem columnNames?_eq_some_iff_of_find?
    (ha : (s.rows.attributes.map fun a => (a.relation, a.number)).Nodup)
    (hr : (ofSnapshot s types excluded).find? id = some r) {numbers : List Int} {names : List String} :
    r.columnNames? numbers = some names ↔ List.Forall₂ (s.rows.NamesColumn id) numbers names := by
  obtain ⟨c, schemaName, rfl, hstanding⟩ := exists_standing_of_find? hr
  have hnames : r.NamesColumn = s.rows.NamesColumn c.oid := by
    funext number name
    rw [namesColumn_iff_of_standing ha hstanding]
  rw [columnNames?_eq_some_iff (nodup_numbers_of_standing ha hstanding), hnames]

/-- Where no relation has two columns of one number, a normalized relation and the snapshot give one answer
for every list of numbers: the names of the live columns with these numbers, position by position, and none
just when one of the numbers is that of no live column. -/
theorem columns_are_named_alike (types : Classification) (excluded : List String)
    (ha : (s.rows.attributes.map fun a => (a.relation, a.number)).Nodup) {c : ClassRow}
    (hr : (ofSnapshot s types excluded).find? c.oid = some r) (numbers : List Int) :
    r.columnNames? numbers = s.liveColumnNames? c numbers ∧
      (∀ names, r.columnNames? numbers = some names ↔
        List.Forall₂ (s.rows.NamesColumn c.oid) numbers names) ∧
      (r.columnNames? numbers = none ↔
        ∃ number ∈ numbers, ∀ a ∈ s.rows.liveAttributes c.oid, a.number ≠ number) := by
  have hsame : r.columnNames? numbers = s.liveColumnNames? c numbers := by
    apply Option.ext
    intro names
    rw [columnNames?_eq_some_iff_of_find? ha hr, Snapshot.liveColumnNames?_eq_some_iff ha]
  refine ⟨hsame, fun names => columnNames?_eq_some_iff_of_find? ha hr, ?_⟩
  rw [hsame, ← not_iff_not, ← ne_eq, Option.ne_none_iff_exists', Snapshot.exists_liveColumnNames?_iff]
  push Not
  rfl

/-- Numbers may be repeated and in any order; zero, a negative number or one beyond the last column is
unknown on both sides. -/
theorem orders_are_named_alike :
    (Snapshot.sample.rows.attributes.map fun a => (a.relation, a.number)).Nodup ∧
      ∃ r, (ofSnapshot .sample Snapshot.sample.types []).find? 16390 = some r ∧
        r.columnNames? [2, 1, 2] = some ["item", "id", "item"] ∧
        Snapshot.sample.liveColumnNames? ⟨16390, "orders", 2200, "r"⟩ [2, 1, 2] =
          some ["item", "id", "item"] ∧
        ∀ unknown ∈ [0, -1, 3], r.columnNames? [1, unknown] = none := by
  have ha : (Snapshot.sample.rows.attributes.map fun a => (a.relation, a.number)).Nodup := by decide
  have hsome : ((ofSnapshot .sample Snapshot.sample.types []).find? 16390).isSome := by decide
  obtain ⟨r, hr⟩ := Option.isSome_iff_exists.1 hsome
  have hnamed (numbers : List Int) :
      r.columnNames? numbers = Snapshot.sample.liveColumnNames? ⟨16390, "orders", 2200, "r"⟩ numbers :=
    (columns_are_named_alike Snapshot.sample.types [] ha (c := ⟨16390, "orders", 2200, "r"⟩) hr numbers).1
  have hknown : Snapshot.sample.liveColumnNames? ⟨16390, "orders", 2200, "r"⟩ [2, 1, 2] =
      some ["item", "id", "item"] := by decide
  refine ⟨ha, r, hr, (hnamed _).trans hknown, hknown, ?_⟩
  intro unknown hunknown
  rw [hnamed]
  revert unknown
  decide

end NormalizedRelation

end CatalogSchema
