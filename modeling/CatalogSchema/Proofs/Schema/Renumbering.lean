import CatalogSchema.Proofs.Schema.Resemblance
import CatalogSchema.Proofs.Typing.Lookup

/-!
# Schemas of renumbered catalogs

No stage shows more of an identifier than which objects it stands for, save one: relations of the same
name are told apart by the order of their namespaces. A renumbering that keeps that order keeps the schema
(`buildSchema_renumber`), also where references dangle or identifiers are repeated.
-/

namespace CatalogSchema

section Rows

variable {α β γ : Type} [Ord γ] (f : Renumbering) (g : α → β) (key : α → Int) (key' : β → Int)

/-- The changed rows with a changed key are the rows with the key, changed. -/
theorem filter_map_key (hk : ∀ r, key' (g r) = f (key r)) (rows : List α) (k : Int) :
    (rows.map g).filter (key' · = f k) = (rows.filter (key · = k)).map g := by
  rw [List.filter_map]
  refine congrArg (List.map g) (List.filter_congr fun r _ => ?_)
  exact decide_eq_decide.2 (by rw [hk, f.inj])

theorem sortOn_filter_map (second : α → γ) (second' : β → γ) (hk : ∀ r, key' (g r) = f (key r))
    (hs : ∀ r, second' (g r) = second r) (rows : List α) (k : Int) :
    sortOn second' ((rows.map g).filter (key' · = f k)) =
      (sortOn second (rows.filter (key · = k))).map g := by
  rw [filter_map_key f g key key' hk]
  symm
  refine map_sortBy _ fun x _ y _ => ?_
  simp only [compareOn, hs]

end Rows

/-! ## Types -/

namespace Classification

variable (f : Renumbering) (rows : List TypeRow)

theorem find?_rowsById_renumber (id : Int) :
    (rowsById (rows.map (.renumber f))).find? (f id) = ((rowsById rows).find? id).map (.renumber f) :=
  OrderedMap.find?_indexBy_map f.injective (TypeRow.renumber f) TypeRow.oid TypeRow.oid (fun _ => rfl)
    rows id

theorem standing_renumber (denied : List String) (t : TypeRow) :
    (t.renumber f).standing (rowsById (rows.map (.renumber f))) denied =
      t.standing (rowsById rows) denied := by
  have harray (t : TypeRow) : (t.renumber f).isArray = t.isArray := by
    have hne : decide (f t.element ≠ 0) = decide (t.element ≠ 0) :=
      decide_eq_decide.2 (not_congr f.eq_zero_iff)
    show (decide (f t.element ≠ 0) && decide (t.category = "A")) = _
    rw [hne]
    rfl
  have helement (t : TypeRow) : (t.renumber f).isElement = t.isElement := by
    unfold TypeRow.isElement
    rw [harray]
    rfl
  have hfind : ((rowsById (rows.map (.renumber f))).find? (t.renumber f).element).filter
      TypeRow.isElement =
        (((rowsById rows).find? t.element).filter TypeRow.isElement).map (.renumber f) := by
    show ((rowsById (rows.map (.renumber f))).find? (f t.element)).filter _ = _
    rw [find?_rowsById_renumber]
    cases (rowsById rows).find? t.element with
    | none => rfl
    | some e =>
      simp only [Option.map_some, Option.filter_some, helement]
      split <;> rfl
  unfold TypeRow.standing
  rw [harray, hfind]
  show (if t.isExcludedKind then _ else if t.isArray then _ else if t.name ∈ denied then _ else _) = _
  cases ((rowsById rows).find? t.element).filter TypeRow.isElement <;> rfl

theorem scalarName?_renumber (denied : List String) (id : Int) :
    (ofRows (rows.map (.renumber f)) denied).scalarName? (f id) =
      (ofRows rows denied).scalarName? id := by
  rw [scalarName?_ofRows, scalarName?_ofRows, find?_rowsById_renumber]
  cases (rowsById rows).find? id with
  | none => rfl
  | some t =>
    simp only [Option.map_some, Option.bind_some, standing_renumber]
    rfl

theorem columnType?_renumber (denied : List String) (id : Int) :
    (ofRows (rows.map (.renumber f)) denied).columnType? (f id) =
      (ofRows rows denied).columnType? id := by
  rw [columnType?_ofRows, columnType?_ofRows, find?_rowsById_renumber]
  cases (rowsById rows).find? id with
  | none => rfl
  | some t =>
    simp only [Option.map_some, Option.bind_some, standing_renumber]
    rfl

end Classification

/-! ## Lookups -/

namespace Snapshot

variable (f : Renumbering) (s : Snapshot)

theorem namespace?_renumber (id : Int) :
    (s.renumber f).namespace? (f id) = (s.namespace? id).map (.renumber f) := by
  rw [namespace?_eq, namespace?_eq]
  exact OrderedMap.find?_indexBy_map f.injective (NamespaceRow.renumber f) NamespaceRow.oid NamespaceRow.oid
    (fun _ => rfl) s.rows.namespaces id

theorem class?_renumber (id : Int) :
    (s.renumber f).class? (f id) = (s.class? id).map (.renumber f) := by
  rw [class?_eq, class?_eq]
  exact OrderedMap.find?_indexBy_map f.injective (ClassRow.renumber f) ClassRow.oid ClassRow.oid
    (fun _ => rfl) s.rows.classes id

theorem aggregate?_renumber (id : Int) :
    (s.renumber f).aggregate? (f id) = (s.aggregate? id).map (.renumber f) := by
  rw [aggregate?_eq, aggregate?_eq]
  exact OrderedMap.find?_indexBy_map f.injective (AggregateRow.renumber f) AggregateRow.proc AggregateRow.proc
    (fun _ => rfl) s.rows.aggregates id

theorem description?_renumber (catalog object part : Int) :
    (s.renumber f).description? (f catalog) (f object) part = s.description? catalog object part := by
  have hinjective : Function.Injective (Prod.map f (Prod.map f (id : Int → Int))) :=
    fun _ _ h => Prod.ext (f.inj.1 (Prod.mk.inj h).1) <|
      Prod.ext (f.inj.1 (Prod.mk.inj (Prod.mk.inj h).2).1) (Prod.mk.inj (Prod.mk.inj h).2).2
  have hcomments : (s.renumber f).comments =
      s.comments.map (Prod.map (Prod.map f (Prod.map f (id : Int → Int))) id) := by
    unfold comments
    rw [List.map_map]
    exact List.map_map ..
  rw [description?_eq, description?_eq, hcomments]
  have hfind := OrderedMap.find?_ofList_map hinjective id s.comments (catalog, object, part)
  rw [Option.map_id] at hfind
  exact hfind

theorem target?_renumber (excluded : List String) (r : ConstraintRow) :
    ForeignKey.target? (s.renumber f) excluded (r.renumber f) =
      (ForeignKey.target? s excluded r).map (Prod.map (.renumber f) (.renumber f)) := by
  have hclass : (s.renumber f).foreignClass? (r.renumber f) = (s.foreignClass? r).map (.renumber f) :=
    s.class?_renumber f r.foreignRelation
  have hnamespace (c : ClassRow) : (s.renumber f).classNamespace? (c.renumber f) =
      (s.classNamespace? c).map (.renumber f) := s.namespace?_renumber f c.schema
  unfold ForeignKey.target?
  rw [hclass]
  cases s.foreignClass? r with
  | none => rfl
  | some c =>
    simp only [Option.bind_eq_bind, Option.map_some, Option.bind_some, hnamespace]
    cases s.classNamespace? c with
    | none => rfl
    | some n =>
      simp only [Option.map_some, Option.bind_some]
      show (if n.name ∈ excluded then _ else _) = _
      by_cases hn : n.name ∈ excluded
      · rw [if_pos hn, if_pos hn]
        rfl
      · rw [if_neg hn, if_neg hn]
        rfl

/-! ## Selection -/

variable (excluded : List String)

theorem schemas_renumber : ((s.renumber f).schemas excluded).entries =
    (s.schemas excluded).entries.map (Prod.map f id) := by
  have hrows : ((s.rows.namespaces.map (NamespaceRow.renumber f)).filter (·.name ∉ excluded)).map
      (fun n => (n.oid, n.name)) =
        ((s.rows.namespaces.filter (·.name ∉ excluded)).map fun n => (n.oid, n.name)).map
          (Prod.map f id) := by
    rw [List.filter_map, List.map_map, List.map_map]
    rfl
  show (OrderedMap.ofList (((s.rows.namespaces.map (NamespaceRow.renumber f)).filter
    (·.name ∉ excluded)).map fun n => (n.oid, n.name))).entries = _
  rw [hrows, OrderedMap.entries_ofList_map f.injective]
  rfl

theorem find?_schemas_renumber (id : Int) :
    ((s.renumber f).schemas excluded).find? (f id) = (s.schemas excluded).find? id := by
  refine Option.ext fun name => ?_
  rw [OrderedMap.find?_eq_some_iff, OrderedMap.find?_eq_some_iff, schemas_renumber, List.mem_map]
  constructor
  · rintro ⟨⟨k, v⟩, he, heq⟩
    obtain ⟨hk, rfl⟩ := Prod.mk.inj heq
    exact f.inj.1 hk ▸ he
  · intro he
    exact ⟨(id, name), he, rfl⟩

theorem mem_keys_schemas_renumber (id : Int) :
    f id ∈ ((s.renumber f).schemas excluded).keys ↔ id ∈ (s.schemas excluded).keys :=
  OrderedMap.mem_keys_iff_of_find? (s.find?_schemas_renumber f excluded id)

/-- The order of the namespaces is the one that shows: it decides between relations of one name. -/
theorem selected_renumber (h : f.AscendsOn s.rows.namespaceIds) :
    (s.renumber f).selected excluded = (s.selected excluded).map (.renumber f) := by
  have hfilter : (s.rows.classes.map (ClassRow.renumber f)).filter
      (fun c => c.isQueryable && c.schema ∈ ((s.renumber f).schemas excluded).keys) =
        (s.rows.classes.filter fun c => c.isQueryable && c.schema ∈ (s.schemas excluded).keys).map
          (.renumber f) := by
    rw [List.filter_map]
    refine congrArg (List.map _) (List.filter_congr fun c _ => ?_)
    exact congrArg (c.isQueryable && ·) (decide_eq_decide.2 (s.mem_keys_schemas_renumber f excluded _))
  have hsort : ClassRow.candidates (s.rows.classes.map (.renumber f))
      ((s.renumber f).schemas excluded).keys =
        (ClassRow.candidates s.rows.classes (s.schemas excluded).keys).map (.renumber f) := by
    unfold ClassRow.candidates
    rw [hfilter]
    symm
    -- of the three parts of the comparison only the schema is an identifier
    refine map_sortBy _ fun c hc d hd => congrArg Ordering.isLE ?_
    have hmem {c : ClassRow} (hc : c ∈ s.rows.classes) : c.schema ∈ s.rows.namespaceIds :=
      List.mem_append_right _ (List.mem_map.2 ⟨c, hc, rfl⟩)
    have hschema := h.compare_eq (hmem (List.mem_of_mem_filter hc)) (hmem (List.mem_of_mem_filter hd))
    show (compare c.name d.name).then ((compare (f c.schema) (f d.schema)).then _) = _
    rw [hschema]
    rfl
  show Bid.winners (Bid.settle _ _ (ClassRow.candidates (s.rows.classes.map (.renumber f)) _)) = _
  rw [hsort]
  exact Bid.winners_settle_map (fun _ => rfl) [] _

/-! ## The schema -/

theorem resembles_renumber (h : f.AscendsOn s.rows.namespaceIds) :
    Resembles f excluded s (s.renumber f) where
  selected := s.selected_renumber f excluded h
  schemaName c _ := congrArg (Option.getD · "") (s.find?_schemas_renumber f excluded c.schema)
  columnType? := Classification.columnType?_renumber f s.rows.types excludedTypeNames
  liveAttributes c _ := by
    have hsort : sortOn AttributeRow.number
        ((s.rows.attributes.map (AttributeRow.renumber f)).filter (·.relation = f c.oid)) =
          (sortOn AttributeRow.number (s.rows.attributes.filter (·.relation = c.oid))).map
            (.renumber f) :=
      sortOn_filter_map f (AttributeRow.renumber f) AttributeRow.relation AttributeRow.relation
        AttributeRow.number AttributeRow.number (fun _ => rfl) (fun _ => rfl) _ _
    rw [liveAttributes_eq, liveAttributes_eq]
    show (sortOn AttributeRow.number
      ((s.rows.attributes.map (AttributeRow.renumber f)).filter (·.relation = f c.oid))).filter _ = _
    rw [hsort, List.filter_map]
    rfl
  comment c _ := s.description?_renumber f s.classCatalog c.oid
  constraintsOf c _ := sortOn_filter_map f (ConstraintRow.renumber f) ConstraintRow.relation
    ConstraintRow.relation ConstraintRow.name ConstraintRow.name (fun _ => rfl) (fun _ => rfl) _ _
  target? := s.target?_renumber f excluded

theorem sameFunctions_renumber : SameFunctions f s (s.renumber f) where
  scalarName? := Classification.scalarName?_renumber f s.rows.types excludedTypeNames
  aggregate? := s.aggregate?_renumber f
  procs := .refl _
  operators := .refl _
  casts := .refl _

end Snapshot

/-- Renumbering a catalog leaves its schema as it is, as long as the namespaces keep their order. -/
theorem buildSchema_renumber (f : Renumbering) (s : Snapshot) (o : Options)
    (h : f.AscendsOn s.rows.namespaceIds) : buildSchema (s.renumber f) o = buildSchema s o :=
  (s.resembles_renumber f o.excludedSchemas h).buildSchema_eq (s.sameFunctions_renumber f)

/-- The tables of the small catalog with each other's identifiers. -/
theorem swapped_sample_same_schema :
    let f := Renumbering.swap 16384 16390 (by decide) (by decide)
    f.AscendsOn Snapshot.sample.rows.namespaceIds ∧
      buildSchema (Snapshot.sample.renumber f) .default = buildSchema .sample .default := by
  intro f
  have h : f.AscendsOn Snapshot.sample.rows.namespaceIds := by
    unfold Renumbering.AscendsOn
    decide
  exact ⟨h, buildSchema_renumber f .sample .default h⟩

end CatalogSchema
