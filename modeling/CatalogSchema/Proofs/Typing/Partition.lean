import CatalogSchema.Proofs.Typing.Lookup

/-!
# The partition of the types

Where no two rows share an identifier, a type is scalar or an array or neither by what its row says and, for
an array, the row of its elements; where these rows stand does not matter. Denied names make fewer types
scalar and change nothing about arrays (`types_are_partitioned`).
-/

namespace CatalogSchema

namespace Classification

variable {rows : List TypeRow} {denied : List String} {id : Int}

theorem snd_keyedScalar?_eq_some_iff {t : TypeRow} {types : OrderedMap Int TypeRow} {s : ScalarType} :
    (keyedScalar? (t, t.standing types denied)).map Prod.snd = some s ↔
      t.IsScalar denied ∧ s = ⟨t.oid, t.schema, t.name⟩ := by
  rw [← TypeRow.standing_eq_scalar_iff]
  cases t.standing types denied <;> simp [keyedScalar?, eq_comm]

theorem snd_keyedArray?_eq_some_iff {t : TypeRow} {types : OrderedMap Int TypeRow} {a : ArrayType} :
    (keyedArray? (t, t.standing types denied)).map Prod.snd = some a ↔
      ∃ element, t.standing types denied = .array element ∧ a = ⟨t.oid, t.schema, element⟩ := by
  cases t.standing types denied <;> simp [keyedArray?, eq_comm]

/-- The scalar types are those whose rows say so. -/
theorem find?_scalars_eq_some_iff (h : (rows.map TypeRow.oid).Nodup) {s : ScalarType} :
    (ofRows rows denied).scalars.find? id = some s ↔
      ∃ t ∈ rows, t.oid = id ∧ t.IsScalar denied ∧ s = ⟨t.oid, t.schema, t.name⟩ := by
  rw [find?_scalars, Option.bind_eq_some_iff]
  simp only [snd_keyedScalar?_eq_some_iff, rowsById, OrderedMap.find?_indexBy_eq_some_iff h, and_assoc]

/-- The array types are those whose rows say so, with elements that have a row and are no arrays. -/
theorem find?_arrays_eq_some_iff (h : (rows.map TypeRow.oid).Nodup) {a : ArrayType} :
    (ofRows rows denied).arrays.find? id = some a ↔
      ∃ t ∈ rows, t.oid = id ∧ ∃ e ∈ rows, t.IsArrayOf e ∧ a = ⟨t.oid, t.schema, e.name⟩ := by
  rw [find?_arrays, Option.bind_eq_some_iff]
  simp only [snd_keyedArray?_eq_some_iff, TypeRow.standing_eq_array_iff, rowsById,
    OrderedMap.find?_indexBy_eq_some_iff h, TypeRow.isElement_iff]
  constructor
  · rintro ⟨t, ⟨ht, hid⟩, _, ⟨hexposable, harray, e, ⟨he, heid⟩, ⟨hee, hea⟩, rfl⟩, ha⟩
    exact ⟨t, ht, hid, e, he, ⟨hexposable, harray, heid.symm, hee, hea⟩, ha⟩
  · rintro ⟨t, ht, hid, e, he, harray, ha⟩
    exact ⟨t, ⟨ht, hid⟩, e.name, ⟨harray.exposable, harray.isArray, e, ⟨he, harray.element_eq.symm⟩,
      ⟨harray.elementExposable, harray.elementNotArray⟩, rfl⟩, ha⟩

/-- A denied name keeps a row from being scalar and does nothing to an array. -/
theorem keyedArray?_standing_congr (types : OrderedMap Int TypeRow) (denied denied' : List String)
    (t : TypeRow) :
    keyedArray? (t, t.standing types denied) = keyedArray? (t, t.standing types denied') := by
  unfold TypeRow.standing
  split
  · rfl
  · split
    · rfl
    · split <;> split <;> rfl

theorem arrays_ofRows_congr (rows : List TypeRow) (denied denied' : List String) :
    (ofRows rows denied).arrays = (ofRows rows denied').arrays := by
  unfold ofRows ofStandings standings
  refine congrArg OrderedMap.ofList ?_
  rw [List.filterMap_map, List.filterMap_map]
  exact congrArg (List.filterMap · _) (funext fun t => keyedArray?_standing_congr _ denied denied' t)

/-- No row is that of a scalar type and of an array. -/
theorem notMem_arrays_of_mem_scalars (h : (rows.map TypeRow.oid).Nodup)
    (hs : id ∈ (ofRows rows denied).scalars.keys) : id ∉ (ofRows rows denied).arrays.keys := by
  intro ha
  obtain ⟨s, hs⟩ := Option.isSome_iff_exists.1 (OrderedMap.isSome_find?_iff.2 hs)
  obtain ⟨a, ha⟩ := Option.isSome_iff_exists.1 (OrderedMap.isSome_find?_iff.2 ha)
  obtain ⟨t, ht, hid, hscalar, -⟩ := (find?_scalars_eq_some_iff h).1 hs
  obtain ⟨t', ht', hid', e, -, harray, -⟩ := (find?_arrays_eq_some_iff h).1 ha
  obtain rfl : t = t' := List.inj_on_of_nodup_map h ht ht' (hid.trans hid'.symm)
  exact hscalar.notArray harray.isArray

theorem find?_ofRows_of_perm {rows' : List TypeRow} (hp : rows'.Perm rows)
    (h : (rows.map TypeRow.oid).Nodup) :
    (ofRows rows' denied).scalars.find? id = (ofRows rows denied).scalars.find? id ∧
      (ofRows rows' denied).arrays.find? id = (ofRows rows denied).arrays.find? id := by
  have h' : (rows'.map TypeRow.oid).Nodup := (hp.map _).nodup_iff.2 h
  constructor
  · refine Option.ext fun s => ?_
    rw [find?_scalars_eq_some_iff h', find?_scalars_eq_some_iff h]
    simp only [hp.mem_iff]
  · refine Option.ext fun a => ?_
    rw [find?_arrays_eq_some_iff h', find?_arrays_eq_some_iff h]
    simp only [hp.mem_iff]

end Classification

/-- Scalar and array types are told by the rows alone: no type is both, a column has no type if its type is
neither, denied names do not matter for arrays, and the order of the rows matters for none. -/
theorem types_are_partitioned (rows : List TypeRow) (denied : List String)
    (h : (rows.map TypeRow.oid).Nodup) :
    let types := Classification.ofRows rows denied
    (∀ id s, types.scalars.find? id = some s ↔
      ∃ t ∈ rows, t.oid = id ∧ t.IsScalar denied ∧ s = ⟨t.oid, t.schema, t.name⟩) ∧
    (∀ id a, types.arrays.find? id = some a ↔
      ∃ t ∈ rows, t.oid = id ∧ ∃ e ∈ rows, t.IsArrayOf e ∧ a = ⟨t.oid, t.schema, e.name⟩) ∧
    (∀ id ∈ types.scalars.keys, id ∉ types.arrays.keys) ∧
    (∀ id, types.columnType? id = none ↔ id ∉ types.scalars.keys ∧ id ∉ types.arrays.keys) ∧
    (∀ denied', (Classification.ofRows rows denied').arrays = types.arrays) ∧
    ∀ rows', rows'.Perm rows → ∀ id,
      (Classification.ofRows rows' denied).scalars.find? id = types.scalars.find? id ∧
        (Classification.ofRows rows' denied).arrays.find? id = types.arrays.find? id := by
  intro types
  refine ⟨fun id s => Classification.find?_scalars_eq_some_iff h,
    fun id a => Classification.find?_arrays_eq_some_iff h,
    fun id => Classification.notMem_arrays_of_mem_scalars h, fun id => ?_,
    fun denied' => Classification.arrays_ofRows_congr rows denied' denied,
    fun rows' hp id => Classification.find?_ofRows_of_perm hp h⟩
  rw [← Option.not_isSome_iff_eq_none, Classification.isSome_columnType?_iff, not_or]

/-- A type with elements outside the arrays, an array before its elements, one of a denied type, and arrays
that are their own elements, of a type that is missing, and of arrays. -/
def arraySample : List TypeRow :=
  [⟨601, "lseg", 11, "b", "G", 600⟩, ⟨1007, "_int4", 11, "b", "A", 23⟩, ⟨23, "int4", 11, "b", "N", 0⟩,
    ⟨1003, "_name", 11, "b", "A", 19⟩, ⟨19, "name", 11, "b", "S", 18⟩, ⟨70, "_self", 11, "b", "A", 70⟩,
    ⟨71, "_gone", 11, "b", "A", 99⟩, ⟨72, "__int4", 11, "b", "A", 1007⟩]

/-- In any order of the rows `lseg` is scalar and there are arrays of `int4` and `name`, though not the scalar
type `name`; the last three rows are neither. -/
theorem arrays_of_the_sample :
    (arraySample.map TypeRow.oid).Nodup ∧ arraySample.reverse.Perm arraySample ∧
      let types := Classification.ofRows arraySample.reverse excludedTypeNames
      types.scalars.find? 601 = some ⟨601, 11, "lseg"⟩ ∧
      types.arrays.find? 1007 = some ⟨1007, 11, "int4"⟩ ∧
      types.arrays.find? 1003 = some ⟨1003, 11, "name"⟩ ∧
      ∀ id ∈ [19, 70, 71, 72], types.scalars.find? id = none ∧ types.arrays.find? id = none := by
  have h : (arraySample.map TypeRow.oid).Nodup := by decide
  have hp : arraySample.reverse.Perm arraySample := List.reverse_perm _
  obtain ⟨hscalars, harrays, -, hneither, -, horder⟩ := types_are_partitioned arraySample excludedTypeNames h
  refine ⟨h, hp, ?_⟩
  simp only [horder _ hp]
  refine ⟨?_, ?_, ?_, fun id hid => ?_⟩
  · rw [hscalars]
    exact ⟨⟨601, "lseg", 11, "b", "G", 600⟩, by decide, rfl, ⟨by decide, by decide, by decide⟩, rfl⟩
  · rw [harrays]
    exact ⟨⟨1007, "_int4", 11, "b", "A", 23⟩, by decide, rfl, ⟨23, "int4", 11, "b", "N", 0⟩, by decide,
      ⟨by decide, by decide, rfl, by decide, by decide⟩, rfl⟩
  · rw [harrays]
    exact ⟨⟨1003, "_name", 11, "b", "A", 19⟩, by decide, rfl, ⟨19, "name", 11, "b", "S", 18⟩, by decide,
      ⟨by decide, by decide, rfl, by decide, by decide⟩, rfl⟩
  · have hnone : ∀ id ∈ [19, 70, 71, 72],
        (Classification.ofRows arraySample excludedTypeNames).columnType? id = none := by decide
    obtain ⟨hs, ha⟩ := (hneither id).1 (hnone id hid)
    exact ⟨OrderedMap.find?_eq_none_iff.2 hs, OrderedMap.find?_eq_none_iff.2 ha⟩

end CatalogSchema
