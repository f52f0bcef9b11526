import CatalogSchema.Proofs.Schema.Resemblance

/-!
# One more relation

A relation that is added to a catalog, with whatever rows it owns, changes nothing else in the schema as long
as it takes no name away (`added_relation_leaves_the_rest`). It passes through every list that relations are
settled, indexed and sorted in; left out at the end or at the start, the rest is the same.
-/

namespace CatalogSchema

/-- `q` is `r` with one more relation, which nothing in `r` refers to, and with any rows owned by it. -/
structure CatalogRows.AddsRelation (r q : CatalogRows) (c : ClassRow) : Prop where
  namespaces : q.namespaces = r.namespaces
  classes : ∃ before after, r.classes = before ++ after ∧ q.classes = before ++ c :: after
  attributes : q.attributes.filter (·.relation ≠ c.oid) = r.attributes.filter (·.relation ≠ c.oid)
  types : q.types = r.types
  casts : q.casts = r.casts
  procs : q.procs = r.procs
  operators : q.operators = r.operators
  aggregates : q.aggregates = r.aggregates
  constraints : q.constraints.filter (·.relation ≠ c.oid) = r.constraints.filter (·.relation ≠ c.oid)
  descriptions : q.descriptions.filter (·.object ≠ c.oid) = r.descriptions.filter (·.object ≠ c.oid)
  catalogs : q.catalogs = r.catalogs
  fresh : ∀ d ∈ r.classes, d.oid ≠ c.oid
  unreferenced : ∀ k ∈ r.constraints, k.foreignRelation ≠ c.oid

namespace CatalogRows.AddsRelation

variable {r q : CatalogRows} {c : ClassRow}

theorem filter_classes (h : AddsRelation r q c) : q.classes.filter (·.oid ≠ c.oid) = r.classes := by
  obtain ⟨before, after, hr, hq⟩ := h.classes
  rw [hq, List.filter_append, List.filter_cons_of_neg (by simp), ← List.filter_append, ← hr,
    List.filter_eq_self]
  exact fun d hd => decide_eq_true (h.fresh d hd)

theorem eq_of_mem (h : AddsRelation r q c) {d : ClassRow} (hd : d ∈ q.classes) (ho : d.oid = c.oid) :
    d = c := by
  obtain ⟨before, after, hr, hq⟩ := h.classes
  have hold : d ∉ r.classes := fun hm => h.fresh d hm ho
  rw [hr, List.mem_append, not_or] at hold
  rw [hq, List.mem_append, List.mem_cons] at hd
  exact (hd.resolve_left hold.1).resolve_right hold.2

/-- The rows that any other relation owns are the same. -/
theorem owned_eq {α : Type} {owner : α → Int} {xs ys : List α} {oid : Int} (ho : oid ≠ c.oid)
    (hxy : ys.filter (owner · ≠ c.oid) = xs.filter (owner · ≠ c.oid)) :
    ys.filter (owner · = oid) = xs.filter (owner · = oid) := by
  refine filter_eq_of_filter_eq hxy fun x hx => ?_
  rw [of_decide_eq_true hx]
  exact decide_eq_true ho

end CatalogRows.AddsRelation

namespace Snapshot

variable {s t : Snapshot} {c : ClassRow} {o : Options}

/-! ## The other relations -/

theorem class?_eq_of_adds (h : s.rows.AddsRelation t.rows c) {oid : Int} (ho : oid ≠ c.oid) :
    t.class? oid = s.class? oid := by
  rw [class?_eq, class?_eq, OrderedMap.find?_indexBy, OrderedMap.find?_indexBy, ← h.filter_classes,
    ← List.filter_reverse, List.find?_filter]
  refine List.find?_congr fun d _ => ?_
  by_cases hd : d.oid = oid
  · simp [hd, ho]
  · simp [hd]

/-- All other relations look as they did. -/
theorem alike_of_adds (h : s.rows.AddsRelation t.rows c) (excluded : List String) :
    Alike .refl excluded (fun d => d.oid ≠ c.oid) s t := by
  refine .of_eq (fun id => ?_) (fun d hd => ?_) (fun d hd part => ?_) (fun d hd => ?_) (fun k hk => ?_)
    fun k hk d n ht => ?_
  · unfold types
    rw [h.types]
  · rw [liveAttributes_eq, liveAttributes_eq, CatalogRows.AddsRelation.owned_eq hd h.attributes]
  · rw [classCatalog_eq h.catalogs, description?_eq_of_object, description?_eq_of_object,
      CatalogRows.AddsRelation.owned_eq hd h.descriptions]
  · unfold constraintsOf
    rw [CatalogRows.AddsRelation.owned_eq hd h.constraints]
  · refine Option.ext fun ⟨d, n⟩ => ?_
    rw [ForeignKey.target?_eq_some_iff, ForeignKey.target?_eq_some_iff,
      class?_eq_of_adds h (h.unreferenced k hk), namespace?_eq, namespace?_eq, h.namespaces]
  · obtain ⟨htarget, -, -⟩ := ForeignKey.target?_eq_some_iff.1 ht
    rw [(class?_some htarget).2]
    exact h.unreferenced k hk

/-! ## Selection and normalization -/

theorem schemas_eq_of_adds (h : s.rows.AddsRelation t.rows c) (excluded : List String) :
    t.schemas excluded = s.schemas excluded :=
  congrArg (exposedSchemas · excluded) h.namespaces

/-- A name that no other queryable relation has takes none out of the selection. -/
theorem filter_selected (h : s.rows.AddsRelation t.rows c)
    (hname : ∀ d ∈ s.rows.classes, d.isQueryable = true → d.name ≠ c.name) (excluded : List String) :
    (t.selected excluded).filter (·.oid ≠ c.oid) = s.selected excluded := by
  have hold {d : ClassRow} (hd : d ∈ t.rows.classes) (ho : d.oid ≠ c.oid) : d ∈ s.rows.classes := by
    rw [← h.filter_classes]
    exact List.mem_filter.2 ⟨hd, decide_eq_true ho⟩
  have hcandidates : (ClassRow.candidates t.rows.classes (t.schemas excluded).keys).filter
      (·.oid ≠ c.oid) = ClassRow.candidates s.rows.classes (s.schemas excluded).keys := by
    rw [ClassRow.candidates, filter_sortBy, List.filter_comm, h.filter_classes, schemas_eq_of_adds h]
    rfl
  unfold selected ClassRow.select ClassRow.bids
  rw [Bid.filter_winners_settle, hcandidates]
  · rfl
  · intro x hx hp y hy hk
    obtain ⟨hxm, hxq, -⟩ := ClassRow.mem_candidates.1 hx
    obtain ⟨hym, -, -⟩ := ClassRow.mem_candidates.1 hy
    refine decide_eq_true fun ho => ?_
    rw [h.eq_of_mem hym ho] at hk
    exact hname x (hold hxm (of_decide_eq_true hp)) hxq hk.symm

theorem fst_of_normalized? {excluded : List String} {d : ClassRow} {e : Int × NormalizedRelation}
    (h : s.normalized? excluded d = some e) : e.1 = d.oid :=
  (NormalizedRelation.find?_standing_eq_some_iff.1 h).1

theorem normalized?_eq_of_adds (h : s.rows.AddsRelation t.rows c) {excluded : List String} {d : ClassRow}
    (hd : d.oid ≠ c.oid) : t.normalized? excluded d = s.normalized? excluded d := by
  have hname : t.schemaName excluded d = s.schemaName excluded d := by
    unfold schemaName
    rw [schemas_eq_of_adds h]
  have hstanding : d.standing t t.types (s.schemaName excluded d) =
      d.standing s s.types (s.schemaName excluded d) := by
    simpa using (alike_of_adds h excluded).standing_eq hd (s.schemaName excluded d)
  unfold normalized?
  rw [hname, hstanding]

/-- The other relations are normalized as before. -/
theorem filter_relations (h : s.rows.AddsRelation t.rows c)
    (hname : ∀ d ∈ s.rows.classes, d.isQueryable = true → d.name ≠ c.name) (excluded : List String) :
    (t.relations excluded).values.filter (·.id ≠ c.oid) = (s.relations excluded).values := by
  have hlisted : ((t.selected excluded).filterMap (t.normalized? excluded)).filter (·.1 ≠ c.oid) =
      (s.selected excluded).filterMap (s.normalized? excluded) := by
    rw [List.filter_filterMap, ← filter_selected h hname, List.filterMap_filter]
    refine List.filterMap_congr fun d _ => ?_
    by_cases hd : d.oid = c.oid
    · cases hn : t.normalized? excluded d with
      | none => simp [hd]
      | some e => simp [fst_of_normalized? hn, hd]
    · rw [if_pos (decide_eq_true hd), ← normalized?_eq_of_adds h hd]
      cases hn : t.normalized? excluded d with
      | none => rfl
      | some e => simp [fst_of_normalized? hn, hd]
  have hentries : (t.relations excluded).entries.filter (·.1 ≠ c.oid) = (s.relations excluded).entries := by
    rw [relations_eq, relations_eq, ← hlisted]
    exact OrderedMap.filter_entries_ofList (fun id => decide (id ≠ c.oid)) _
  have hid : ∀ e ∈ (t.relations excluded).entries, e.2.id = e.1 := fun e he =>
    id_of_find?_relations (OrderedMap.find?_eq_some_iff.2 he)
  rw [OrderedMap.values, OrderedMap.values, ← hentries, List.filter_map]
  refine congrArg (List.map Prod.snd) (List.filter_congr fun e he => ?_)
  simp [hid e he]

/-! ## Tables -/

/-- An exposed name that no other relation has takes no table away. -/
theorem filter_tableWinners (h : s.rows.AddsRelation t.rows c)
    (hname : ∀ d ∈ s.rows.classes, d.isQueryable = true → d.name ≠ c.name)
    (hexposed : ∀ new, (t.relations o.excludedSchemas).find? c.oid = some new →
      ∀ r ∈ (s.relations o.excludedSchemas).values,
        r.exposedName o.unqualifiedSchemas ≠ new.exposedName o.unqualifiedSchemas) :
    (tableWinners (t.relations o.excludedSchemas).values o.unqualifiedSchemas).filter (·.id ≠ c.oid) =
      tableWinners (s.relations o.excludedSchemas).values o.unqualifiedSchemas := by
  have hrelations := filter_relations h hname o.excludedSchemas
  unfold tableWinners TableBids.ofRelations
  rw [Bid.filter_winners_settle, filter_sortBy, hrelations]
  · rfl
  · intro x hx hp y hy hk
    refine decide_eq_true fun hid => ?_
    have hnew := find?_relations_of_mem (mem_sortBy.1 (show y ∈ sortBy _ _ from hy))
    rw [hid] at hnew
    have hold : x ∈ (s.relations o.excludedSchemas).values := by
      rw [← hrelations]
      exact List.mem_filter.2 ⟨mem_sortBy.1 hx, hp⟩
    exact hexposed y hnew x hold hk.symm

end Snapshot

/-- A relation that is added leaves the rest of the schema alone, unless its name or its exposed name belongs to
another one: every table stays what it was, no table joins but its own, and the functions are the same. -/
theorem added_relation_leaves_the_rest {s t : Snapshot} {c : ClassRow} (o : Options)
    (h : s.rows.AddsRelation t.rows c)
    (hname : ∀ d ∈ s.rows.classes, d.isQueryable = true → d.name ≠ c.name)
    (hexposed : ∀ new, (t.relations o.excludedSchemas).find? c.oid = some new →
      ∀ r ∈ (s.relations o.excludedSchemas).values,
        r.exposedName o.unqualifiedSchemas ≠ new.exposedName o.unqualifiedSchemas) :
    (∀ name table, (buildSchema s o).tables.find? name = some table →
      (buildSchema t o).tables.find? name = some table) ∧
    (∀ name ∈ (buildSchema t o).tables.keys, name ∈ (buildSchema s o).tables.keys ∨
      ((t.relations o.excludedSchemas).find? c.oid).map (·.exposedName o.unqualifiedSchemas) = some name) ∧
    (buildSchema t o).aggregates = (buildSchema s o).aggregates ∧
    (buildSchema t o).comparisons = (buildSchema s o).comparisons := by
  have hwinners := Snapshot.filter_tableWinners h hname hexposed
  have hfunctions : Snapshot.SameFunctions .refl s t :=
    .of_rows_eq h.types h.aggregates h.procs h.operators h.casts
  refine ⟨fun name table hfind => ?_, fun name hname => ?_, hfunctions.aggregates_eq o o,
    hfunctions.comparisons_eq o⟩
  · obtain ⟨r, hr, hexposedName, rfl⟩ := find?_tables_eq_some_iff.1 hfind
    rw [← hwinners] at hr
    obtain ⟨hmem, hid⟩ := List.mem_filter.1 hr
    obtain ⟨d, -, hd, -⟩ := Snapshot.exists_selected (mem_of_mem_tableWinners hmem)
    have hother : d.oid ≠ c.oid := fun ho => of_decide_eq_true hid (hd.trans ho)
    exact find?_tables_eq_some_iff.2
      ⟨r, hmem, hexposedName, (Snapshot.alike_of_adds h o.excludedSchemas).table_eq hother hd⟩
  · obtain ⟨r, hr, rfl⟩ := mem_keys_tables.1 hname
    by_cases hid : r.id = c.oid
    · refine .inr ?_
      rw [← hid, Snapshot.find?_relations_of_mem (mem_of_mem_tableWinners hr)]
      rfl
    · refine .inl (mem_keys_tables.2 ⟨r, ?_, rfl⟩)
      rw [← hwinners]
      exact List.mem_filter.2 ⟨hr, decide_eq_true hid⟩

/-- A relation that refers to another one of the small catalog and to itself. -/
def ClassRow.parcels : ClassRow := ⟨16400, "parcels", 2200, "r"⟩

/-- The small catalog with parcels among the items and orders. -/
def CatalogRows.parcelSample : CatalogRows :=
  { CatalogRows.sample with
    classes := CatalogRows.sample.classes.take 1 ++ ClassRow.parcels :: CatalogRows.sample.classes.drop 1
    attributes := ⟨16400, "id", 1, 23, true, true, "", "", false⟩ :: CatalogRows.sample.attributes ++
      [⟨16400, "parent", 2, 23, false, false, "", "", false⟩]
    constraints := ⟨16401, "orders_item_fkey", "f", 16400, 16384, some [1], some [1]⟩ ::
      CatalogRows.sample.constraints ++
        [⟨16402, "parcels_parent_fkey", "f", 16400, 16400, some [2], some [1]⟩]
    descriptions := ⟨16400, 1259, 0, "Things on their way"⟩ :: CatalogRows.sample.descriptions }

def Snapshot.parcelSample : Snapshot := ⟨.parcelSample, 1259, .ofRows .parcelSample, by decide, rfl⟩

theorem parcels_leave_the_rest :
    Snapshot.sample.rows.AddsRelation Snapshot.parcelSample.rows .parcels ∧
      (∃ table, (buildSchema .sample .default).tables.find? "orders" = some table ∧
        (buildSchema .parcelSample .default).tables.find? "orders" = some table) ∧
      (buildSchema .parcelSample .default).tables.keys = ["items", "orders", "parcels"] ∧
      (buildSchema .parcelSample .default).aggregates = (buildSchema .sample .default).aggregates ∧
      (buildSchema .parcelSample .default).comparisons = (buildSchema .sample .default).comparisons := by
  have h : Snapshot.sample.rows.AddsRelation Snapshot.parcelSample.rows .parcels :=
    ⟨rfl, ⟨_, _, (List.take_append_drop 1 _).symm, rfl⟩, by decide, rfl, rfl, rfl, rfl, rfl, by decide,
      by decide, rfl, by decide, by decide⟩
  have hname : ∀ d ∈ Snapshot.sample.rows.classes, d.isQueryable = true →
      d.name ≠ ClassRow.parcels.name := by decide
  have hexposed : ∀ new ∈ (Snapshot.parcelSample.relations Options.default.excludedSchemas).find?
      ClassRow.parcels.oid, ∀ r ∈ (Snapshot.sample.relations Options.default.excludedSchemas).values,
        r.exposedName Options.default.unqualifiedSchemas ≠
          new.exposedName Options.default.unqualifiedSchemas := by decide +kernel
  obtain ⟨hkept, -, hfunctions⟩ := added_relation_leaves_the_rest .default h hname hexposed
  have horders : ((buildSchema .sample .default).tables.find? "orders").isSome := by decide +kernel
  obtain ⟨table, htable⟩ := Option.isSome_iff_exists.1 horders
  exact ⟨h, ⟨table, htable, hkept _ _ htable⟩, by decide +kernel, hfunctions⟩

end CatalogSchema
