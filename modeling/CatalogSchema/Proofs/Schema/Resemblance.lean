import CatalogSchema.Proofs.Catalog.Renumbering
import CatalogSchema.Proofs.Schema.Functions
import CatalogSchema.Proofs.Schema.Tables
import CatalogSchema.Proofs.Settlement

/-!
# Snapshots that look alike

When do two snapshots have the same tables? `Snapshot.Resembles` lists what has to agree, up to a
renumbering: the selected relations, and for each relation of an exposed schema its live columns, its
comments and its constraints. What a snapshot holds apart from that does not show
(`Resembles.tables_eq`). Comparisons between snapshots only have to establish a resemblance, or, where the
selected relations differ, that single relations look alike (`Alike.standing_eq`, `Alike.table_eq`).
-/

namespace CatalogSchema

/-! ## What the tables are made of -/

namespace Snapshot

variable (s : Snapshot) (excluded : List String)

/-- The namespaces outside the excluded schemas. -/
def schemas : OrderedMap Int String := exposedSchemas s.rows.namespaces excluded

/-- The relations in exposed schemas. -/
def exposed : List ClassRow := s.rows.classes.filter (·.schema ∈ (s.schemas excluded).keys)

/-- The relations selected for their name. -/
def selected : List ClassRow := ClassRow.select s.rows.classes (s.schemas excluded).keys

def schemaName (c : ClassRow) : String := ((s.schemas excluded).find? c.schema).getD ""

/-- What becomes of a selected relation, as an entry under its identifier. -/
def normalized? (c : ClassRow) : Option (Int × NormalizedRelation) :=
  NormalizedRelation.find? (c, c.standing s s.types (s.schemaName excluded c))

theorem relations_eq :
    s.relations excluded = .ofList ((s.selected excluded).filterMap (s.normalized? excluded)) := by
  show OrderedMap.ofList (((s.selected excluded).map fun c =>
    (c, c.standing s s.types (s.schemaName excluded c))).filterMap NormalizedRelation.find?) = _
  rw [List.filterMap_map]
  rfl

end Snapshot

theorem mem_keys_exposedSchemas {namespaces : List NamespaceRow} {excluded : List String} {oid : Int} :
    oid ∈ (exposedSchemas namespaces excluded).keys ↔
      ∃ n ∈ namespaces, n.oid = oid ∧ n.name ∉ excluded := by
  rw [exposedSchemas, OrderedMap.mem_keys_ofList, List.map_map, List.mem_map]
  constructor
  · rintro ⟨n, hn, rfl⟩
    obtain ⟨hm, he⟩ := List.mem_filter.1 hn
    exact ⟨n, hm, rfl, of_decide_eq_true he⟩
  · rintro ⟨n, hm, rfl, he⟩
    exact ⟨n, List.mem_filter.2 ⟨hm, decide_eq_true he⟩, rfl⟩

theorem ForeignKey.target?_eq_some_iff {s : Snapshot} {excluded : List String} {r : ConstraintRow}
    {c : ClassRow} {n : NamespaceRow} :
    target? s excluded r = some (c, n) ↔
      s.class? r.foreignRelation = some c ∧ s.namespace? c.schema = some n ∧ n.name ∉ excluded := by
  unfold target? Snapshot.foreignClass? Snapshot.classNamespace?
  cases hc : s.class? r.foreignRelation with
  | none => simp
  | some c' =>
    cases hn : s.namespace? c'.schema with
    | none =>
      simp only [Option.bind_eq_bind, Option.bind_some, hn, Option.bind_none, Option.some.injEq]
      constructor
      · intro h
        cases h
      · rintro ⟨rfl, h, -⟩
        cases hn.symm.trans h
    | some n' =>
      simp only [Option.bind_eq_bind, Option.bind_some, hn, Option.some.injEq]
      constructor
      · intro h
        split at h
        · cases h
        · rename_i he
          cases h
          exact ⟨rfl, hn, he⟩
      · rintro ⟨rfl, h, he⟩
        obtain rfl := Option.some.inj (hn.symm.trans h)
        rw [if_neg he]

instance : Std.TransCmp ClassRow.compareCandidates :=
  inferInstanceAs (Std.TransCmp (compareLex (compareOn ClassRow.name) (byTwo ClassRow.schema ClassRow.kind)))

theorem ClassRow.mem_candidates {classes : List ClassRow} {schemas : List Int} {c : ClassRow} :
    c ∈ candidates classes schemas ↔ c ∈ classes ∧ c.isQueryable = true ∧ c.schema ∈ schemas := by
  rw [candidates, mem_sortBy, List.mem_filter, Bool.and_eq_true, decide_eq_true_iff]

theorem ClassRow.select_sublist {classes : List ClassRow} {schemas : List Int} :
    (select classes schemas).Sublist (candidates classes schemas) :=
  Bid.sublist_winners_settle name [] _

theorem Snapshot.exposed_of_selected {s : Snapshot} {excluded : List String} {c : ClassRow}
    (h : c ∈ s.selected excluded) : c ∈ s.exposed excluded := by
  obtain ⟨hm, -, hs⟩ := ClassRow.mem_candidates.1 (ClassRow.select_sublist.subset h)
  exact List.mem_filter.2 ⟨hm, decide_eq_true hs⟩

/-- A relation is normalized when it has live columns and all of them have types that can be exposed. -/
theorem ClassRow.standing_eq_normalized_iff {s : Snapshot} {types : Classification} {name : String}
    {c : ClassRow} {r : NormalizedRelation} : c.standing s types name = .normalized r ↔
      c.liveAttributes s ≠ [] ∧
      (∀ a ∈ c.liveAttributes s, (types.columnType? a.type).isSome) ∧
      r = ⟨c.oid, c.schema, name, c.name, c.kind, s.classDescription? c,
        (c.liveAttributes s).filterMap (AttributeRow.normalize? s types)⟩ := by
  have hsupported : ((c.liveAttributes s).find? fun a => (types.columnType? a.type).isNone) = none ↔
      ∀ a ∈ c.liveAttributes s, (types.columnType? a.type).isSome := by
    simp [List.find?_eq_none, Option.isSome_iff_ne_none]
  rw [← hsupported]
  simp only [standing]
  constructor
  · intro h
    split at h
    · cases h
    · rename_i hfind
      split at h
      · cases h
      · rename_i hcolumns
        cases h
        refine ⟨fun hlive => hcolumns ?_, hfind, rfl⟩
        rw [hlive]
        rfl
  · rintro ⟨hlive, hfind, rfl⟩
    simp only [hfind]
    split
    · -- the first live column can be normalized
      rename_i hcolumns
      obtain ⟨a, ha⟩ := List.exists_mem_of_ne_nil _ hlive
      have hnone := List.filterMap_eq_nil_iff.1 hcolumns a ha
      have hsome := hsupported.1 hfind a ha
      rw [Option.map_eq_none_iff.1 hnone] at hsome
      cases hsome
    · rfl

theorem ClassRow.of_standing {s : Snapshot} {types : Classification} {name : String} {c : ClassRow}
    {r : NormalizedRelation} (h : c.standing s types name = .normalized r) :
    r.id = c.oid ∧ r.schemaName = name := by
  obtain ⟨-, -, rfl⟩ := standing_eq_normalized_iff.1 h
  exact ⟨rfl, rfl⟩

/-- Only what is normalized becomes an entry, under the identifier of its row. -/
theorem NormalizedRelation.find?_standing_eq_some_iff {s : Snapshot} {types : Classification}
    {name : String} {c : ClassRow} {e : Int × NormalizedRelation} :
    find? (c, c.standing s types name) = some e ↔
      e.1 = c.oid ∧ c.standing s types name = .normalized e.2 := by
  cases hs : c.standing s types name with
  | normalized r =>
    obtain ⟨hid, -⟩ := ClassRow.of_standing hs
    obtain ⟨id, q⟩ := e
    constructor
    · intro h
      cases h
      exact ⟨hid, rfl⟩
    · rintro ⟨rfl, h⟩
      cases h
      rw [← hid]
      rfl
  | unsupported a => exact iff_of_false nofun fun h => nomatch h.2
  | noColumns => exact iff_of_false nofun fun h => nomatch h.2

/-- A normalized relation is what became of a selected one. -/
theorem Snapshot.exists_standing {s : Snapshot} {excluded : List String} {r : NormalizedRelation}
    (h : r ∈ (s.relations excluded).values) :
    ∃ c ∈ s.selected excluded, c.standing s s.types (s.schemaName excluded c) = .normalized r := by
  obtain ⟨e, he, rfl⟩ := List.mem_map.1 h
  rw [relations_eq] at he
  obtain ⟨c, hc, hce⟩ := List.mem_filterMap.1 (OrderedMap.mem_of_mem_entries_ofList he)
  exact ⟨c, hc, (NormalizedRelation.find?_standing_eq_some_iff.1 hce).2⟩

/-- A normalized relation stems from a selected one. -/
theorem Snapshot.exists_selected {s : Snapshot} {excluded : List String} {r : NormalizedRelation}
    (h : r ∈ (s.relations excluded).values) :
    ∃ c ∈ s.selected excluded, r.id = c.oid ∧ r.schemaName = s.schemaName excluded c := by
  obtain ⟨c, hc, hs⟩ := exists_standing h
  exact ⟨c, hc, ClassRow.of_standing hs⟩

/-! ## Renumbered relations -/

section Renumber

variable (f : Renumbering)

def NormalizedRelation.renumber (r : NormalizedRelation) : NormalizedRelation :=
  { r with id := f r.id, schemaId := f r.schemaId }

def RelationStanding.renumber : RelationStanding → RelationStanding
  | .normalized r => .normalized (r.renumber f)
  | .unsupported a => .unsupported (a.renumber f)
  | .noColumns => .noColumns

@[simp] theorem RelationStanding.renumber_refl : RelationStanding.renumber .refl = id := by
  funext standing
  cases standing <;> rfl

theorem tableWinners_renumber (relations : List NormalizedRelation) (unqualified : List String) :
    tableWinners (relations.map (.renumber f)) unqualified =
      (tableWinners relations unqualified).map (.renumber f) := by
  unfold tableWinners TableBids.ofRelations
  have hsort : (sortBy (byTwo NormalizedRelation.name NormalizedRelation.schemaName) relations).map
      (NormalizedRelation.renumber f) = sortBy (byTwo NormalizedRelation.name NormalizedRelation.schemaName)
        (relations.map (.renumber f)) := map_sortBy _ fun _ _ _ _ => rfl
  rw [← hsort]
  exact Bid.winners_settle_map (fun _ => rfl) [] _

end Renumber

/-! ## Single relations -/

/-- On the relations that `shown` tells `t` has what `s` has, with identifiers changed by `f`. The relations
that constraints refer to are among them. -/
structure Snapshot.Alike (f : Renumbering) (excluded : List String) (shown : ClassRow → Prop)
    (s t : Snapshot) : Prop where
  columnType? : ∀ id, t.types.columnType? (f id) = s.types.columnType? id
  liveAttributes : ∀ c, shown c →
    (c.renumber f).liveAttributes t = (c.liveAttributes s).map (.renumber f)
  comment : ∀ c, shown c → ∀ part,
    t.description? t.classCatalog (f c.oid) part = s.description? s.classCatalog c.oid part
  constraintsOf : ∀ c, shown c → t.constraintsOf (f c.oid) = (s.constraintsOf c.oid).map (.renumber f)
  target? : ∀ r ∈ s.rows.constraints, ForeignKey.target? t excluded (r.renumber f) =
    (ForeignKey.target? s excluded r).map (Prod.map (.renumber f) (.renumber f))
  shown_target : ∀ r ∈ s.rows.constraints, ∀ c n,
    ForeignKey.target? s excluded r = some (c, n) → shown c

namespace Snapshot.Alike

variable {f : Renumbering} {excluded : List String} {shown : ClassRow → Prop} {s t : Snapshot}

/-- Relations that look alike with the same identifiers. -/
theorem of_eq (columnType? : ∀ id, t.types.columnType? id = s.types.columnType? id)
    (liveAttributes : ∀ c, shown c → c.liveAttributes t = c.liveAttributes s)
    (comment : ∀ c, shown c → ∀ part,
      t.description? t.classCatalog c.oid part = s.description? s.classCatalog c.oid part)
    (constraintsOf : ∀ c, shown c → t.constraintsOf c.oid = s.constraintsOf c.oid)
    (target? : ∀ r ∈ s.rows.constraints,
      ForeignKey.target? t excluded r = ForeignKey.target? s excluded r)
    (shown_target : ∀ r ∈ s.rows.constraints, ∀ c n,
      ForeignKey.target? s excluded r = some (c, n) → shown c) :
    Alike .refl excluded shown s t where
  columnType? := columnType?
  liveAttributes := by simpa using liveAttributes
  comment := comment
  constraintsOf := by simpa using constraintsOf
  target? := by simpa using target?
  shown_target := shown_target

theorem normalize?_eq (h : Alike f excluded shown s t) {c : ClassRow} (hc : shown c)
    {a : AttributeRow} (ha : a.relation = c.oid) :
    (a.renumber f).normalize? t t.types = a.normalize? s s.types := by
  have hcomment := h.comment c hc a.number
  rw [← ha] at hcomment
  show (t.types.columnType? (f a.type)).map _ = (s.types.columnType? a.type).map _
  rw [h.columnType?]
  refine congrArg (Option.map · _) (funext fun type => ?_)
  simp only [Snapshot.attributeDescription?, AttributeRow.renumber, hcomment]
  rfl

theorem standing_eq (h : Alike f excluded shown s t) {c : ClassRow} (hc : shown c)
    (name : String) :
    (c.renumber f).standing t t.types name = (c.standing s s.types name).renumber f := by
  have hlive := h.liveAttributes c hc
  have hfind : ((c.liveAttributes s).map (AttributeRow.renumber f)).find?
      (fun a => (t.types.columnType? a.type).isNone) =
        ((c.liveAttributes s).find? fun a => (s.types.columnType? a.type).isNone).map
          (AttributeRow.renumber f) := by
    rw [List.find?_map]
    refine congrArg (Option.map _) (congrArg (List.find? · _) (funext fun a => ?_))
    exact congrArg Option.isNone (h.columnType? a.type)
  have hcolumns : ((c.liveAttributes s).map (AttributeRow.renumber f)).filterMap
      (AttributeRow.normalize? t t.types) =
        (c.liveAttributes s).filterMap (AttributeRow.normalize? s s.types) := by
    rw [List.filterMap_map]
    exact List.filterMap_congr fun a ha => h.normalize?_eq hc (relation_of_mem_liveAttributes ha)
  unfold ClassRow.standing
  simp only [hlive, hfind, hcolumns]
  cases (c.liveAttributes s).find? fun a => (s.types.columnType? a.type).isNone with
  | some a => rfl
  | none =>
    cases (c.liveAttributes s).filterMap (AttributeRow.normalize? s s.types) with
    | nil => rfl
    | cons column columns =>
      have hcomment := h.comment c hc 0
      simp only [Option.map_none, RelationStanding.renumber, NormalizedRelation.renumber,
        Snapshot.classDescription?, ClassRow.renumber, hcomment]

theorem listedForeign_eq (h : Alike f excluded shown s t) (r : NormalizedRelation) {c : ConstraintRow}
    (hc : c ∈ s.rows.constraints) :
    ForeignKey.listed? t excluded (r.renumber f) (c.renumber f) =
      ForeignKey.listed? s excluded r c := by
  unfold ForeignKey.listed?
  rw [h.target? c hc]
  show (if c.kind = _ then _ else _) = _
  by_cases hk : c.kind = ForeignKey.kind
  · rw [if_pos hk, if_pos hk]
    cases ht : ForeignKey.target? s excluded c with
    | none => rfl
    | some target =>
      have hl := h.liveAttributes target.1 (h.shown_target c hc _ _ ht)
      have hn : t.liveNames (target.1.renumber f) = s.liveNames target.1 := by
        unfold Snapshot.liveNames
        rw [hl, List.map_map]
        rfl
      have hp : ForeignKey.columnPairs? t (r.renumber f) (target.1.renumber f) (c.renumber f) =
          ForeignKey.columnPairs? s r target.1 c := by
        unfold ForeignKey.columnPairs? Snapshot.liveColumnNames?
        rw [hn]
        rfl
      simp only [Option.map_some, Option.bind_some, Prod.map, hp]
      rfl
  · rw [if_neg hk, if_neg hk]

theorem table_eq (h : Alike f excluded shown s t) {c : ClassRow} (hc : shown c) {r : NormalizedRelation}
    (hid : r.id = c.oid) : (r.renumber f).table t excluded = r.table s excluded := by
  have hcs : t.constraintsOf (f r.id) = (s.constraintsOf r.id).map (.renumber f) := by
    rw [hid]
    exact h.constraintsOf c hc
  unfold NormalizedRelation.table
  have hu : (t.constraintsOf (r.renumber f).id).filterMap
      (UniquenessConstraint.listed? (r.renumber f)) =
        (s.constraintsOf r.id).filterMap (UniquenessConstraint.listed? r) := by
    show (t.constraintsOf (f r.id)).filterMap _ = _
    rw [hcs, List.filterMap_map]
    rfl
  have hf : (t.constraintsOf (r.renumber f).id).filterMap
      (ForeignKey.listed? t excluded (r.renumber f)) =
        (s.constraintsOf r.id).filterMap (ForeignKey.listed? s excluded r) := by
    show (t.constraintsOf (f r.id)).filterMap _ = _
    rw [hcs, List.filterMap_map]
    exact List.filterMap_congr fun k hk =>
      h.listedForeign_eq r (List.mem_of_mem_filter (mem_sortBy.1 hk))
  rw [hu, hf]
  rfl

end Snapshot.Alike

/-! ## Resemblance -/

@[ext] theorem Metadata.ext {m n : Metadata} (ht : m.tables = n.tables)
    (ha : m.aggregates = n.aggregates) (hc : m.comparisons = n.comparisons) : m = n := by
  cases m
  cases n
  cases ht
  cases ha
  cases hc
  rfl

/-- `t` shows what `s` shows, with identifiers changed by `f`. -/
structure Snapshot.Resembles (f : Renumbering) (excluded : List String) (s t : Snapshot) : Prop where
  selected : t.selected excluded = (s.selected excluded).map (.renumber f)
  schemaName : ∀ c ∈ s.selected excluded,
    t.schemaName excluded (c.renumber f) = s.schemaName excluded c
  columnType? : ∀ id, t.types.columnType? (f id) = s.types.columnType? id
  liveAttributes : ∀ c ∈ s.exposed excluded,
    (c.renumber f).liveAttributes t = (c.liveAttributes s).map (.renumber f)
  comment : ∀ c ∈ s.exposed excluded, ∀ part,
    t.description? t.classCatalog (f c.oid) part = s.description? s.classCatalog c.oid part
  constraintsOf : ∀ c ∈ s.exposed excluded,
    t.constraintsOf (f c.oid) = (s.constraintsOf c.oid).map (.renumber f)
  target? : ∀ r : ConstraintRow, ForeignKey.target? t excluded (r.renumber f) =
    (ForeignKey.target? s excluded r).map (Prod.map (.renumber f) (.renumber f))

namespace Snapshot.Resembles

variable {f : Renumbering} {excluded : List String} {s t : Snapshot}

/-- Resemblance with the same identifiers. -/
theorem of_eq (selected : t.selected excluded = s.selected excluded)
    (schemaName : ∀ c ∈ s.selected excluded, t.schemaName excluded c = s.schemaName excluded c)
    (columnType? : ∀ id, t.types.columnType? id = s.types.columnType? id)
    (liveAttributes : ∀ c ∈ s.exposed excluded, c.liveAttributes t = c.liveAttributes s)
    (comment : ∀ c ∈ s.exposed excluded, ∀ part,
      t.description? t.classCatalog c.oid part = s.description? s.classCatalog c.oid part)
    (constraintsOf : ∀ c ∈ s.exposed excluded, t.constraintsOf c.oid = s.constraintsOf c.oid)
    (target? : ∀ r, ForeignKey.target? t excluded r = ForeignKey.target? s excluded r) :
    Resembles .refl excluded s t where
  selected := by simpa using selected
  schemaName := by simpa using schemaName
  columnType? := columnType?
  liveAttributes := by simpa using liveAttributes
  comment := comment
  constraintsOf := by simpa using constraintsOf
  target? := by simpa using target?

theorem exposed_of_target? {r : ConstraintRow} {c : ClassRow} {n : NamespaceRow}
    (ht : ForeignKey.target? s excluded r = some (c, n)) : c ∈ s.exposed excluded := by
  obtain ⟨hc, hn, he⟩ := ForeignKey.target?_eq_some_iff.1 ht
  obtain ⟨hnm, hno⟩ := namespace?_some hn
  exact List.mem_filter.2 ⟨(class?_some hc).1,
    decide_eq_true (mem_keys_exposedSchemas.2 ⟨n, hnm, hno, he⟩)⟩

theorem alike (h : Resembles f excluded s t) : Alike f excluded (· ∈ s.exposed excluded) s t where
  columnType? := h.columnType?
  liveAttributes := h.liveAttributes
  comment := h.comment
  constraintsOf := h.constraintsOf
  target? r _ := h.target? r
  shown_target _ _ _ _ := exposed_of_target?

theorem values_relations_eq (h : Resembles f excluded s t) :
    (t.relations excluded).values = (s.relations excluded).values.map (.renumber f) := by
  have hentries : (t.selected excluded).filterMap (t.normalized? excluded) =
      ((s.selected excluded).filterMap (s.normalized? excluded)).map
        (Prod.map f (.renumber f)) := by
    rw [h.selected, List.filterMap_map, List.map_filterMap]
    refine List.filterMap_congr fun c hc => ?_
    have hs := h.alike.standing_eq (exposed_of_selected hc) (s.schemaName excluded c)
    simp only [Function.comp_apply, normalized?, h.schemaName c hc, hs]
    cases c.standing s s.types (s.schemaName excluded c) <;> rfl
  rw [relations_eq, relations_eq, hentries, OrderedMap.values,
    OrderedMap.entries_ofList_map f.injective, OrderedMap.values, List.map_map, List.map_map]
  rfl

/-- Snapshots that look alike have the same tables. -/
theorem tables_eq {o : Options} (h : Resembles f o.excludedSchemas s t) :
    (buildSchema t o).tables = (buildSchema s o).tables := by
  rw [tables_buildSchema, tables_buildSchema, h.values_relations_eq, tableWinners_renumber,
    List.map_map]
  refine congrArg OrderedMap.sortByKey (congrArg OrderedMap.ofList (List.map_congr_left fun r hr => ?_))
  obtain ⟨c, hc, hid, -⟩ := exists_selected (mem_of_mem_tableWinners hr)
  have ht := h.alike.table_eq (exposed_of_selected hc) hid
  simp only [Function.comp_apply, ht]
  rfl

/-- Snapshots that look alike and have the same functions have the same schema. -/
theorem buildSchema_eq {o : Options} (h : Resembles f o.excludedSchemas s t)
    (hf : SameFunctions f s t) : buildSchema t o = buildSchema s o := by
  have haggregates := hf.aggregates_eq o o
  have hcomparisons := hf.comparisons_eq o
  exact Metadata.ext h.tables_eq haggregates hcomparisons

end Snapshot.Resembles

/-! ## A small catalog -/

/-- Two tables of `public`, and a view of `information_schema` with the name of one of them. -/
def CatalogRows.sample : CatalogRows where
  namespaces := [⟨11, "pg_catalog"⟩, ⟨2200, "public"⟩, ⟨13000, "information_schema"⟩]
  classes := [⟨16384, "items", 2200, "r"⟩, ⟨16390, "orders", 2200, "r"⟩, ⟨13010, "items", 13000, "v"⟩]
  attributes :=
    [⟨16384, "id", 1, 23, true, false, "a", "", false⟩,
     ⟨16384, "labels", 2, 1009, false, false, "", "", false⟩,
     ⟨16390, "id", 1, 23, true, true, "", "", false⟩,
     ⟨16390, "item", 2, 23, false, false, "", "", false⟩,
     ⟨13010, "id", 1, 23, false, false, "", "", false⟩]
  types :=
    [⟨16, "bool", 11, "b", "B", 0⟩, ⟨23, "int4", 11, "b", "N", 0⟩, ⟨25, "text", 11, "b", "S", 0⟩,
     ⟨1043, "varchar", 11, "b", "S", 0⟩, ⟨1009, "_text", 11, "b", "A", 25⟩]
  casts := [⟨1043, 25, "i"⟩, ⟨23, 25, "a"⟩]
  procs := [⟨2116, "max", 11, "a", 23, [23], 0, 0⟩, ⟨2129, "max", 11, "a", 25, [25], 0, 0⟩]
  operators := [⟨96, "=", 23, 23, 16⟩, ⟨98, "=", 25, 25, 16⟩]
  aggregates := [⟨2116, 0⟩, ⟨2129, 0⟩]
  constraints :=
    [⟨16391, "orders_item_fkey", "f", 16390, 16384, some [2], some [1]⟩,
     ⟨16392, "orders_view_fkey", "f", 16390, 13010, some [2], some [1]⟩,
     ⟨16393, "items_pkey", "p", 16384, 0, some [1], none⟩]
  descriptions := [⟨16384, 1259, 0, "Things for sale"⟩, ⟨16384, 1259, 1, "Number of the item"⟩]
  catalogs := ⟨[(1255, "pg_proc"), (1259, "pg_class")], by decide⟩

def Snapshot.sample : Snapshot := ⟨.sample, 1259, .ofRows .sample, by decide, rfl⟩

end CatalogSchema
