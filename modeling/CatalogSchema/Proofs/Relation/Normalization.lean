import CatalogSchema.Proofs.Schema.Exclusion
import CatalogSchema.Proofs.Typing.Lookup

/-!
# Which relations are normalized, and as what

`CatalogRows.HasName` says which relation goes by a name: of those on offer the first in the order of the
sort, whatever becomes of it. It is normalized when it has live columns and all of them have types that can
be exposed; what is then said of it and of each of its columns is what the rows say
(`ClassRow.Describes`, `AttributeRow.Describes`). `normalization_is_exact` puts this together.
-/

namespace CatalogSchema

/-! ## Who has a name -/

namespace CatalogRows

/-- The relation can be queried, and its namespace is known and not excluded. -/
def IsOffered (rows : CatalogRows) (excluded : List String) (c : ClassRow) : Prop :=
  c.kind ∈ ["r", "v", "m", "f", "p"] ∧
    ∃ n ∈ rows.namespaces, n.oid = c.schema ∧ n.name ∉ excluded

instance (rows : CatalogRows) (excluded : List String) : DecidablePred (rows.IsOffered excluded) :=
  fun _ => inferInstanceAs (Decidable (_ ∧ _))

/-- The relations on offer under a name, in the order of the rows. -/
def namesakes (rows : CatalogRows) (excluded : List String) (name : String) : List ClassRow :=
  rows.classes.filter fun c => rows.IsOffered excluded c ∧ c.name = name

/-- The relation is the first of its namesakes by name, schema and kind; of those that tie the first row
counts. -/
def HasName (rows : CatalogRows) (excluded : List String) (c : ClassRow) : Prop :=
  IsFirst (compareLex (compareOn ClassRow.name)
    (compareLex (compareOn ClassRow.schema) (compareOn ClassRow.kind))) c
      (rows.namesakes excluded c.name)

end CatalogRows

namespace ClassRow

variable {classes : List ClassRow} {schemas : List Int}

theorem nodup_name_select : ((select classes schemas).map name).Nodup := Bid.nodup_winners_settle _

/-- A relation is selected when it is the first of the candidates with its name. -/
theorem mem_select_iff {c : ClassRow} : c ∈ select classes schemas ↔
    IsFirst compareCandidates c
      (classes.filter fun d => d.name = c.name && (d.isQueryable && d.schema ∈ schemas)) := by
  have hwinner : c ∈ select classes schemas ↔
      (select classes schemas).find? (fun d => d.name = c.name) = some c := by
    rw [find?_key_eq_some_iff nodup_name_select]
    exact (and_iff_left rfl).symm
  rw [hwinner, select, bids, Bid.find?_winners_settle, if_neg (by simp), ← List.head?_filter, candidates,
    filter_sortBy, head?_sortBy_eq_some_iff, List.filter_filter]

/-- The selected relations ascend by their names. -/
theorem pairwise_name_select : (select classes schemas).Pairwise fun c d => c.name < d.name := by
  have hsorted : (select classes schemas).Pairwise fun c d => (compareCandidates c d).isLE :=
    (pairwise_sortBy compareCandidates _).sublist select_sublist
  have hdistinct : (select classes schemas).Pairwise fun c d => c.name ≠ d.name :=
    List.pairwise_map.1 nodup_name_select
  refine (hsorted.and hdistinct).imp ?_
  rintro c d ⟨hle, hne⟩
  rcases Ordering.isLE_then_iff_or.1 hle with hlt | ⟨heq, -⟩
  · exact compareOfLessAndEq_eq_lt.1 hlt
  · exact absurd (Std.LawfulEqOrd.eq_of_compare heq) hne

end ClassRow

namespace Snapshot

variable {s : Snapshot} {excluded : List String}

/-- The selected relations are those that have their names. -/
theorem mem_selected_iff {c : ClassRow} : c ∈ s.selected excluded ↔ s.rows.HasName excluded c := by
  have hnamesakes : (s.rows.classes.filter fun d =>
      d.name = c.name && (d.isQueryable && d.schema ∈ (s.schemas excluded).keys)) =
        s.rows.namesakes excluded c.name := by
    unfold CatalogRows.namesakes CatalogRows.IsOffered
    refine List.filter_congr fun d _ => Bool.eq_iff_iff.2 ?_
    rw [Bool.and_eq_true, Bool.and_eq_true, decide_eq_true_iff, decide_eq_true_iff, decide_eq_true_iff,
      schemas, mem_keys_exposedSchemas, and_comm]
    exact and_congr_left' (and_congr_left' decide_eq_true_iff)
  rw [selected, ClassRow.mem_select_iff, hnamesakes]
  rfl

theorem nodup_oid_selected (hc : (s.rows.classes.map ClassRow.oid).Nodup) :
    ((s.selected excluded).map ClassRow.oid).Nodup := by
  have hcandidates : ((ClassRow.candidates s.rows.classes (s.schemas excluded).keys).map
      ClassRow.oid).Nodup :=
    ((perm_sortBy _ _).map _).nodup_iff.2 ((List.filter_sublist.map _).nodup hc)
  exact (ClassRow.select_sublist.map _).nodup hcandidates

end Snapshot

/-! ## What is said of a relation -/

/-- The column says what the row says of it. -/
structure AttributeRow.Describes (s : Snapshot) (types : Classification) (a : AttributeRow)
    (column : NormalizedColumn) : Prop where
  number : column.number = a.number
  name : column.info.name = a.name
  type : types.HasColumnType a.type column.info.type
  nullable : column.info.nullable = !a.notNull
  default : column.info.default = if a.hasDefault then .hasDefault else .noDefault
  identity : column.info.identity =
    if a.identity = "a" then .always else if a.identity = "d" then .byDefault else .notIdentity
  generated : column.info.generated = if a.generated = "s" then .stored else .notGenerated
  description : column.info.description = s.rows.comment? s.classCatalog a.relation a.number

/-- The normalized relation says what the rows say of the relation: its columns are the live ones, each
once, in the order of their numbers. -/
structure ClassRow.Describes (s : Snapshot) (types : Classification) (c : ClassRow)
    (r : NormalizedRelation) : Prop where
  id : r.id = c.oid
  schemaId : r.schemaId = c.schema
  schemaName : ∃ n ∈ s.rows.namespaces, n.oid = c.schema ∧ n.name = r.schemaName
  name : r.name = c.name
  kind : r.kind = c.kind
  description : r.description = s.rows.comment? s.classCatalog c.oid 0
  columns : ∃ live, IsStableSort AttributeRow.number (s.rows.liveAttributes c.oid) live ∧
    List.Forall₂ (AttributeRow.Describes s types) live r.columns

theorem AttributeRow.describes_of_normalize? {s : Snapshot} {types : Classification} {a : AttributeRow}
    {column : NormalizedColumn} (h : a.normalize? s types = some column) :
    a.Describes s types column := by
  obtain ⟨type, ht, rfl⟩ := Option.map_eq_some_iff.1 h
  have hdescription : s.attributeDescription? a = s.rows.comment? s.classCatalog a.relation a.number :=
    s.description?_eq_comment? _ _ _
  exact ⟨rfl, rfl, Classification.columnType?_eq_some_iff.1 ht, rfl, rfl, rfl, rfl, hdescription⟩

/-- Of the members that have results each gives one, in its place. -/
theorem forall₂_filterMap {α β : Type} (f : α → Option β) (xs : List α) :
    List.Forall₂ (fun x y => f x = some y) (xs.filter fun x => (f x).isSome) (xs.filterMap f) := by
  induction xs with
  | nil => exact .nil
  | cons x xs ih =>
    cases hx : f x with
    | none => rwa [List.filter_cons_of_neg (by simp [hx]), List.filterMap_cons_none hx]
    | some y =>
      rw [List.filter_cons_of_pos (by simp [hx]), List.filterMap_cons_some hx]
      exact .cons hx ih

/-- Where every live column can be normalized none of them is lost. -/
theorem AttributeRow.forall₂_filterMap_normalize? {s : Snapshot} {types : Classification}
    {live : List AttributeRow} (h : ∀ a ∈ live, (types.columnType? a.type).isSome) :
    List.Forall₂ (Describes s types) live (live.filterMap (normalize? s types)) := by
  have hall : live.filter (fun a => (a.normalize? s types).isSome) = live := by
    refine List.filter_eq_self.2 fun a ha => ?_
    unfold normalize?
    rw [Option.isSome_map]
    exact h a ha
  have hcolumns := forall₂_filterMap (normalize? s types) live
  rw [hall] at hcolumns
  exact hcolumns.imp fun a column => describes_of_normalize?

theorem ClassRow.forall₂_columns_of_standing {s : Snapshot} {types : Classification} {name : String}
    {c : ClassRow} {r : NormalizedRelation} (h : c.standing s types name = .normalized r) :
    List.Forall₂ (AttributeRow.Describes s types) (c.liveAttributes s) r.columns := by
  obtain ⟨-, hsupported, rfl⟩ := standing_eq_normalized_iff.1 h
  exact AttributeRow.forall₂_filterMap_normalize? hsupported

theorem ClassRow.describes_of_standing {s : Snapshot} {types : Classification} {excluded : List String}
    {c : ClassRow} {r : NormalizedRelation} (hc : c ∈ s.selected excluded)
    (h : c.standing s types (s.schemaName excluded c) = .normalized r) : c.Describes s types r := by
  obtain ⟨n, hn, hid, -, hname⟩ := Snapshot.namespace_of_selected hc
  have hcolumns := forall₂_columns_of_standing h
  obtain ⟨-, -, rfl⟩ := standing_eq_normalized_iff.1 h
  have hdescription : s.classDescription? c = s.rows.comment? s.classCatalog c.oid 0 :=
    s.description?_eq_comment? _ _ _
  exact ⟨rfl, rfl, ⟨n, hn, hid, hname.symm⟩, rfl, rfl, hdescription, c.liveAttributes s,
    s.isStableSort_liveAttributes c, hcolumns⟩

/-- All live columns of the relation have types that can be exposed, and there are some. -/
def ClassRow.IsSupported (s : Snapshot) (types : Classification) (c : ClassRow) : Prop :=
  s.rows.liveAttributes c.oid ≠ [] ∧
    ∀ a ∈ s.rows.liveAttributes c.oid, a.type ∈ types.scalars.keys ∨ a.type ∈ types.arrays.keys

instance (s : Snapshot) (types : Classification) (c : ClassRow) : Decidable (c.IsSupported s types) :=
  inferInstanceAs (Decidable (_ ∧ _))

theorem ClassRow.exists_standing_iff {s : Snapshot} {types : Classification} {name : String}
    {c : ClassRow} : (∃ r, c.standing s types name = .normalized r) ↔ c.IsSupported s types := by
  have hsort := (s.isStableSort_liveAttributes c).perm
  have hnil : c.liveAttributes s ≠ [] ↔ s.rows.liveAttributes c.oid ≠ [] := by
    rw [ne_eq, ne_eq, ← List.length_eq_zero_iff, ← List.length_eq_zero_iff, hsort.length_eq]
  unfold IsSupported
  simp only [standing_eq_normalized_iff, ← hnil, ← hsort.mem_iff,
    ← Classification.isSome_columnType?_iff]
  constructor
  · rintro ⟨r, hlive, hsupported, -⟩
    exact ⟨hlive, hsupported⟩
  · rintro ⟨hlive, hsupported⟩
    exact ⟨_, hlive, hsupported, rfl⟩

/-! ## The normalized relations of a snapshot -/

namespace NormalizedRelation

variable {s : Snapshot} {types : Classification} {excluded : List String}

/-- The entries are those of the selected relations, in their order. -/
theorem entries_ofSnapshot (hc : (s.rows.classes.map ClassRow.oid).Nodup) :
    (ofSnapshot s types excluded).entries =
      (s.selected excluded).filterMap fun c => find? (c, c.standing s types (s.schemaName excluded c)) := by
  have hnodup : (((s.selected excluded).filterMap fun c =>
      find? (c, c.standing s types (s.schemaName excluded c))).map Prod.fst).Nodup := by
    refine List.pairwise_map.2 (List.pairwise_filterMap.2 ?_)
    refine (List.pairwise_map.1 (Snapshot.nodup_oid_selected hc)).imp ?_
    intro c d hne e he f hf
    rwa [(find?_standing_eq_some_iff.1 he).1, (find?_standing_eq_some_iff.1 hf).1]
  show (OrderedMap.ofList (((s.selected excluded).map fun c =>
    (c, c.standing s types (s.schemaName excluded c))).filterMap find?)).entries = _
  rw [List.filterMap_map]
  exact OrderedMap.entries_foldl_insert hnodup

theorem mem_entries_ofSnapshot (hc : (s.rows.classes.map ClassRow.oid).Nodup)
    {e : Int × NormalizedRelation} : e ∈ (ofSnapshot s types excluded).entries ↔
      ∃ c, s.rows.HasName excluded c ∧ e.1 = c.oid ∧
        c.standing s types (s.schemaName excluded c) = .normalized e.2 := by
  rw [entries_ofSnapshot hc, List.mem_filterMap]
  exact exists_congr fun c => and_congr Snapshot.mem_selected_iff find?_standing_eq_some_iff

/-- A relation is normalized when it has its name and its columns are supported. -/
theorem mem_keys_ofSnapshot (hc : (s.rows.classes.map ClassRow.oid).Nodup) {c : ClassRow}
    (hm : c ∈ s.rows.classes) : c.oid ∈ (ofSnapshot s types excluded).keys ↔
      s.rows.HasName excluded c ∧ c.IsSupported s types := by
  have hstands : c.IsSupported s types ↔
      ∃ r, c.standing s types (s.schemaName excluded c) = .normalized r :=
    ClassRow.exists_standing_iff.symm
  rw [hstands]
  constructor
  · intro hkey
    obtain ⟨e, he, hid⟩ := List.mem_map.1 hkey
    obtain ⟨d, hd, hdid, hstanding⟩ := (mem_entries_ofSnapshot hc).1 he
    have hdm : d ∈ s.rows.classes := List.mem_of_mem_filter hd.mem
    obtain rfl : d = c := List.inj_on_of_nodup_map hc hdm hm (hdid.symm.trans hid)
    exact ⟨hd, e.2, hstanding⟩
  · rintro ⟨hname, r, hstanding⟩
    have he : (c.oid, r) ∈ (ofSnapshot s types excluded).entries :=
      (mem_entries_ofSnapshot hc).2 ⟨c, hname, rfl, hstanding⟩
    exact List.mem_map_of_mem he

/-- The normalized relations ascend by their names. -/
theorem pairwise_name_ofSnapshot (hc : (s.rows.classes.map ClassRow.oid).Nodup) :
    (ofSnapshot s types excluded).values.Pairwise fun q r => q.name < r.name := by
  unfold OrderedMap.values
  rw [entries_ofSnapshot hc]
  have hname {c : ClassRow} {e : Int × NormalizedRelation}
      (he : find? (c, c.standing s types (s.schemaName excluded c)) = some e) : e.2.name = c.name := by
    obtain ⟨-, hstanding⟩ := find?_standing_eq_some_iff.1 he
    obtain ⟨-, -, hr⟩ := ClassRow.standing_eq_normalized_iff.1 hstanding
    rw [hr]
  refine List.pairwise_map.2 (List.pairwise_filterMap.2 (ClassRow.pairwise_name_select.imp ?_))
  intro c d hlt e he f hf
  rwa [hname he, hname hf]

/-- A relation is normalized when it has its name and its columns are supported, and then as the rows
describe it. The normalized relations ascend by their names. A relation that does not have its name stays
out, whatever becomes of the one that has it. -/
theorem normalization_is_exact (types : Classification) (excluded : List String)
    (hc : (s.rows.classes.map ClassRow.oid).Nodup) :
    (∀ c ∈ s.rows.classes, c.oid ∈ (ofSnapshot s types excluded).keys ↔
      s.rows.HasName excluded c ∧ c.IsSupported s types) ∧
    (∀ e ∈ (ofSnapshot s types excluded).entries,
      ∃ c ∈ s.rows.classes, e.1 = c.oid ∧ c.Describes s types e.2) ∧
    (ofSnapshot s types excluded).values.Pairwise (fun q r => q.name < r.name) ∧
    ∀ c d, s.rows.HasName excluded c → d ∈ s.rows.namesakes excluded c.name → d ≠ c →
      d.oid ∉ (ofSnapshot s types excluded).keys := by
  refine ⟨fun c => mem_keys_ofSnapshot hc, ?_, pairwise_name_ofSnapshot hc, ?_⟩
  · intro e he
    obtain ⟨c, hname, hid, hstanding⟩ := (mem_entries_ofSnapshot hc).1 he
    have hselected := Snapshot.mem_selected_iff.2 hname
    exact ⟨c, List.mem_of_mem_filter hname.mem, hid, ClassRow.describes_of_standing hselected hstanding⟩
  · intro c d hname hd hne hkey
    obtain ⟨hm, hoffered⟩ := List.mem_filter.1 hd
    have hdname : d.name = c.name := (of_decide_eq_true hoffered).2
    obtain ⟨hfirst, -⟩ := (mem_keys_ofSnapshot hc hm).1 hkey
    unfold CatalogRows.HasName at hfirst
    rw [hdname] at hfirst
    exact hne (hfirst.unique hname)

end NormalizedRelation

/-- Where no arrays are known the table of items is left out, and the view of the same name still is not
exposed, though it could be by itself. -/
theorem items_stay_out_with_their_table :
    (Snapshot.sample.rows.classes.map ClassRow.oid).Nodup ∧
      Snapshot.sample.rows.HasName [] ⟨16384, "items", 2200, "r"⟩ ∧
      ClassRow.IsSupported .sample ⟨Snapshot.sample.types.scalars, .empty⟩ ⟨13010, "items", 13000, "v"⟩ ∧
      13010 ∉ (NormalizedRelation.ofSnapshot .sample ⟨Snapshot.sample.types.scalars, .empty⟩ []).keys ∧
      16384 ∉ (NormalizedRelation.ofSnapshot .sample ⟨Snapshot.sample.types.scalars, .empty⟩ []).keys ∧
      16390 ∈ (NormalizedRelation.ofSnapshot .sample ⟨Snapshot.sample.types.scalars, .empty⟩ []).keys := by
  have hc : (Snapshot.sample.rows.classes.map ClassRow.oid).Nodup := by decide
  have hitems : Snapshot.sample.rows.HasName [] ⟨16384, "items", 2200, "r"⟩ :=
    head?_sortBy_eq_some_iff.1 (by decide)
  have horders : Snapshot.sample.rows.HasName [] ⟨16390, "orders", 2200, "r"⟩ :=
    head?_sortBy_eq_some_iff.1 (by decide)
  obtain ⟨hkeys, -, -, hlost⟩ := NormalizedRelation.normalization_is_exact
    ⟨Snapshot.sample.types.scalars, .empty⟩ [] hc
  refine ⟨hc, hitems, by decide, ?_, ?_, ?_⟩
  · exact hlost _ ⟨13010, "items", 13000, "v"⟩ hitems (by decide) (by decide)
  · rw [hkeys ⟨16384, "items", 2200, "r"⟩ (by decide)]
    exact not_and_of_not_right _ (by decide)
  · exact (hkeys ⟨16390, "orders", 2200, "r"⟩ (by decide)).2 ⟨horders, by decide⟩

end CatalogSchema
