import CatalogSchema.Proofs.Catalog.Lookup

/-!
# Types looked up

When a row is that of a scalar type or of an array is said by the row and by that of its elements
(`TypeRow.standing_eq_scalar_iff`, `TypeRow.standing_eq_array_iff`), and the type under an identifier is
read off the row with that identifier and its standing (`find?_scalars`, `find?_arrays`). So scalar types
have no denied names (`notMem_denied_of_mem_scalarNames`), and the elements of array types are rows that are
fit to be elements (`exists_elementRow`). `HasColumnType` says what type a column gets.
-/

namespace CatalogSchema

/-! ## The rows of types -/

namespace TypeRow

/-- Neither composite nor a pseudo-type. -/
def IsExposable (t : TypeRow) : Prop := t.kind ≠ "c" ∧ t.kind ≠ "p"

/-- It has elements and is filed under arrays. -/
def IsTrueArray (t : TypeRow) : Prop := t.element ≠ 0 ∧ t.category = "A"

/-- The row is that of a scalar type. -/
structure IsScalar (denied : List String) (t : TypeRow) : Prop where
  exposable : t.IsExposable
  notArray : ¬ t.IsTrueArray
  allowed : t.name ∉ denied

/-- The row is that of an array whose elements have the other row. -/
structure IsArrayOf (t element : TypeRow) : Prop where
  exposable : t.IsExposable
  isArray : t.IsTrueArray
  element_eq : t.element = element.oid
  elementExposable : element.IsExposable
  elementNotArray : ¬ element.IsTrueArray

instance (t : TypeRow) : Decidable t.IsExposable := inferInstanceAs (Decidable (_ ∧ _))

instance (t : TypeRow) : Decidable t.IsTrueArray := inferInstanceAs (Decidable (_ ∧ _))

variable {types : OrderedMap Int TypeRow} {denied : List String} {t : TypeRow}

theorem isExcludedKind_eq_false_iff : t.isExcludedKind = false ↔ t.IsExposable := by
  simp [isExcludedKind, excludedTypeKinds, IsExposable]

theorem isArray_iff : t.isArray = true ↔ t.IsTrueArray := by
  simp [isArray, IsTrueArray]

theorem isElement_iff : t.isElement = true ↔ t.IsExposable ∧ ¬ t.IsTrueArray := by
  rw [← isExcludedKind_eq_false_iff, ← isArray_iff, isElement]
  simp

theorem standing_eq_scalar_iff : t.standing types denied = .scalar ↔ t.IsScalar denied := by
  have hscalar : t.IsScalar denied ↔ t.isExcludedKind = false ∧ t.isArray = false ∧ t.name ∉ denied := by
    rw [isExcludedKind_eq_false_iff, Bool.eq_false_iff, Ne, isArray_iff]
    exact ⟨fun h => ⟨h.exposable, h.notArray, h.allowed⟩, fun ⟨he, ha, hd⟩ => ⟨he, ha, hd⟩⟩
  rw [hscalar]
  unfold standing
  split
  · simp [*]
  · split
    · split <;> simp [*]
    · split <;> simp [*]

theorem standing_eq_array_iff {name : String} : t.standing types denied = .array name ↔
    t.IsExposable ∧ t.IsTrueArray ∧
      ∃ e, types.find? t.element = some e ∧ e.isElement = true ∧ e.name = name := by
  rw [← isExcludedKind_eq_false_iff, ← isArray_iff]
  unfold standing
  split
  · simp [*]
  · split
    · split
      · rename_i e hfilter
        obtain ⟨hfind, hfit⟩ := Option.filter_eq_some_iff.1 hfilter
        simp [*]
      · rename_i hfilter
        refine iff_of_false (by simp) ?_
        rintro ⟨-, -, e, hfind, hfit, -⟩
        exact Option.filter_eq_none_iff.1 hfilter e hfind hfit
    · split <;> simp [*]

end TypeRow

/-! ## Standings looked up -/

namespace Classification

/-- The types of a list of rows by identifier. -/
def rowsById (rows : List TypeRow) : OrderedMap Int TypeRow := .indexBy TypeRow.oid rows

theorem fst_of_scalar {t : TypeRow} {standing : TypeStanding} {e : Int × ScalarType}
    (h : keyedScalar? (t, standing) = some e) : e.1 = t.oid := by
  cases standing <;> cases h
  rfl

theorem fst_of_array {t : TypeRow} {standing : TypeStanding} {e : Int × ArrayType}
    (h : keyedArray? (t, standing) = some e) : e.1 = t.oid := by
  cases standing <;> cases h
  rfl

theorem find?_scalars (rows : List TypeRow) (denied : List String) (id : Int) :
    (ofRows rows denied).scalars.find? id = ((rowsById rows).find? id).bind fun t =>
      Option.map Prod.snd <| keyedScalar? (t, t.standing (rowsById rows) denied) := by
  show (OrderedMap.ofList (((rowsById rows).values.map fun t =>
    (t, t.standing (rowsById rows) denied)).filterMap keyedScalar?)).find? id = _
  rw [List.filterMap_map]
  refine OrderedMap.find?_ofList_filterMap_values (fun e he e' he' => ?_) id
  rw [← OrderedMap.key_of_mem_indexBy he]
  exact fst_of_scalar he'

theorem find?_arrays (rows : List TypeRow) (denied : List String) (id : Int) :
    (ofRows rows denied).arrays.find? id = ((rowsById rows).find? id).bind fun t =>
      Option.map Prod.snd <| keyedArray? (t, t.standing (rowsById rows) denied) := by
  show (OrderedMap.ofList (((rowsById rows).values.map fun t =>
    (t, t.standing (rowsById rows) denied)).filterMap keyedArray?)).find? id = _
  rw [List.filterMap_map]
  refine OrderedMap.find?_ofList_filterMap_values (fun e he e' he' => ?_) id
  rw [← OrderedMap.key_of_mem_indexBy he]
  exact fst_of_array he'

/-- The scalar type name that a standing gives a row. -/
def nameOf? (t : TypeRow) : TypeStanding → Option String
  | .scalar => some t.name
  | _ => none

/-- The column type that a standing gives a row. -/
def columnTypeOf? (t : TypeRow) : TypeStanding → Option ColumnType
  | .scalar => some (.scalar t.name)
  | .array element => some (.array element)
  | _ => none

theorem scalarName?_ofRows (rows : List TypeRow) (denied : List String) (id : Int) :
    (ofRows rows denied).scalarName? id =
      ((rowsById rows).find? id).bind fun t => nameOf? t (t.standing (rowsById rows) denied) := by
  rw [scalarName?, find?_scalars]
  cases (rowsById rows).find? id with
  | none => rfl
  | some t =>
    simp only [Option.bind_some]
    cases t.standing (rowsById rows) denied <;> rfl

theorem columnType?_ofRows (rows : List TypeRow) (denied : List String) (id : Int) :
    (ofRows rows denied).columnType? id =
      ((rowsById rows).find? id).bind fun t =>
        columnTypeOf? t (t.standing (rowsById rows) denied) := by
  rw [columnType?, find?_scalars, find?_arrays]
  cases (rowsById rows).find? id with
  | none => rfl
  | some t =>
    simp only [Option.bind_some]
    cases t.standing (rowsById rows) denied <;> rfl

/-- The standing of a row depends only on what its element type is. -/
theorem standing_congr {m n : OrderedMap Int TypeRow} (h : ∀ id, m.find? id = n.find? id)
    (denied : List String) (t : TypeRow) : t.standing m denied = t.standing n denied := by
  rw [TypeRow.standing, TypeRow.standing, h]

/-! ## Names of types -/

/-- The names of the scalar types. -/
def scalarNames (c : Classification) : List String := c.scalars.values.map ScalarType.name

theorem mem_scalarNames_of_scalarName? {c : Classification} {id : Int} {name : String}
    (h : c.scalarName? id = some name) : name ∈ c.scalarNames := by
  obtain ⟨t, ht, rfl⟩ := Option.map_eq_some_iff.1 h
  exact List.mem_map_of_mem (OrderedMap.mem_values_of_find? ht)

/-- The row of the elements of an array type. -/
def elementRow? (rows : List TypeRow) (a : ArrayType) : Option TypeRow :=
  ((rowsById rows).find? a.id).bind fun t => (rowsById rows).find? t.element

variable {rows : List TypeRow} {denied : List String}

/-- No scalar type goes by a denied name. -/
theorem notMem_denied_of_mem_scalarNames {name : String} (h : name ∈ (ofRows rows denied).scalarNames) :
    name ∉ denied := by
  obtain ⟨scalar, hs, rfl⟩ := List.mem_map.1 h
  obtain ⟨⟨id, scalar⟩, he, rfl⟩ := List.mem_map.1 hs
  have hfind := OrderedMap.find?_eq_some_iff.2 he
  rw [find?_scalars] at hfind
  obtain ⟨t, -, ht⟩ := Option.bind_eq_some_iff.1 hfind
  cases hstanding : t.standing (rowsById rows) denied with
  | scalar =>
    rw [hstanding] at ht
    cases ht
    exact (TypeRow.standing_eq_scalar_iff.1 hstanding).allowed
  | array element => rw [hstanding] at ht; cases ht
  | elementless => rw [hstanding] at ht; cases ht
  | hidden => rw [hstanding] at ht; cases ht

/-- The elements of an array type have a row, by whose name they go, and it is fit to be one. -/
theorem exists_elementRow {a : ArrayType} (h : a ∈ (ofRows rows denied).arrays.values) :
    ∃ e, elementRow? rows a = some e ∧ e.isElement = true ∧ e.name = a.element := by
  obtain ⟨⟨id, a⟩, he, rfl⟩ := List.mem_map.1 h
  have hfind := OrderedMap.find?_eq_some_iff.2 he
  rw [find?_arrays] at hfind
  obtain ⟨t, hid, ht⟩ := Option.bind_eq_some_iff.1 hfind
  have hoid : t.oid = id := OrderedMap.key_of_mem_indexBy (OrderedMap.find?_eq_some_iff.1 hid)
  cases hstanding : t.standing (rowsById rows) denied with
  | array element =>
    rw [hstanding] at ht
    cases ht
    obtain ⟨-, -, e, helement, hfit, hname⟩ := TypeRow.standing_eq_array_iff.1 hstanding
    refine ⟨e, ?_, hfit, hname⟩
    show ((rowsById rows).find? t.oid).bind _ = _
    rw [hoid, hid]
    exact helement
  | scalar => rw [hstanding] at ht; cases ht
  | elementless => rw [hstanding] at ht; cases ht
  | hidden => rw [hstanding] at ht; cases ht

/-! ## The types of columns -/

/-- The column type that goes with a type: its scalar type, else the array of its elements. -/
inductive HasColumnType (c : Classification) (id : Int) : ColumnType → Prop where
  | scalar {t : ScalarType} (h : c.scalars.find? id = some t) : HasColumnType c id (.scalar t.name)
  | array {t : ArrayType} (hs : id ∉ c.scalars.keys) (h : c.arrays.find? id = some t) :
    HasColumnType c id (.array t.element)

theorem columnType?_eq_some_iff {c : Classification} {id : Int} {type : ColumnType} :
    c.columnType? id = some type ↔ c.HasColumnType id type := by
  unfold columnType?
  constructor
  · intro h
    split at h
    · rename_i t ht
      cases h
      exact .scalar ht
    · rename_i hs
      obtain ⟨t, ht, rfl⟩ := Option.map_eq_some_iff.1 h
      exact .array (OrderedMap.find?_eq_none_iff.1 hs) ht
  · intro h
    cases h with
    | scalar h => rw [h]
    | array hs h => rw [OrderedMap.find?_eq_none_iff.2 hs, h]; rfl

/-- A type has a column type when it is listed as a scalar or an array type. -/
theorem isSome_columnType?_iff {c : Classification} {id : Int} :
    (c.columnType? id).isSome ↔ id ∈ c.scalars.keys ∨ id ∈ c.arrays.keys := by
  rw [← OrderedMap.isSome_find?_iff, ← OrderedMap.isSome_find?_iff]
  unfold columnType?
  cases c.scalars.find? id with
  | some t => exact iff_of_true rfl (.inl rfl)
  | none => simp

/-- A column type that can be exposed is a scalar type or an array of the elements of an array type. -/
theorem of_columnType? {c : Classification} {id : Int} {type : ColumnType}
    (h : c.columnType? id = some type) :
    (∃ name ∈ c.scalarNames, type = .scalar name) ∨ ∃ a ∈ c.arrays.values, type = .array a.element := by
  cases columnType?_eq_some_iff.1 h with
  | scalar ht => exact .inl ⟨_, List.mem_map_of_mem (OrderedMap.mem_values_of_find? ht), rfl⟩
  | array _ ht => exact .inr ⟨_, OrderedMap.mem_values_of_find? ht, rfl⟩

end Classification

end CatalogSchema
