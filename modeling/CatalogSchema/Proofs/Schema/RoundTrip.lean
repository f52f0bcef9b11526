import CatalogSchema.Configuration
import CatalogSchema.Proofs.Validation.Codec

/-!
# Configurations are read back

Every configuration is restored from its document under either spelling of the fields, and so from its
file (`Configuration.load_write`). Record by record: each member is found under the spelling it was written
with, a column marker that was left out has its default value, and a scalar type does not pass for an
array type.
-/

namespace CatalogSchema

open Decoder (Restores)
open Json (Fits)

section Records

-- a member is found by running through the written members, whose keys are known texts
attribute [local simp] Decoder.record Decoder.field Decoder.fieldOr Decoder.find? Decoder.FieldName.plain
  Json.lastMember? Spelling.pick

/-! ## Options -/

theorem OperatorMapping.restores (sp : Spelling) : Restores decode (encode sp) 1 where
  decode_encode m := by cases sp <;> simp [decode, encode, Restores.text.decode_encode]
  fits m := .obj (by simp [Fits.str])

theorem Options.restores (sp : Spelling) : Restores decode (encode sp) 3 where
  decode_encode o := by
    have hmappings := (OperatorMapping.restores sp).list.decode_encode
    cases sp <;> simp [decode, encode, Restores.strings.decode_encode, hmappings]
  fits o := by
    have hstrings := (Restores.strings.mono (show 1 ≤ 2 by omega)).fits
    exact .obj (by simp [hstrings, (OperatorMapping.restores sp).list.fits])

/-! ## Columns -/

namespace ColumnType

theorem restores_scalar (sp : Spelling) : Restores decodeScalar (encodeScalar sp) 1 where
  decode_encode name := by cases sp <;> simp [decodeScalar, encodeScalar, Restores.text.decode_encode]
  fits name := .obj (by simp [Fits.str])

theorem restores_array (sp : Spelling) : Restores decodeArray (encodeArray sp) 2 where
  decode_encode element := by
    have helement := (restores_scalar sp).decode_encode
    cases sp <;> simp [decodeArray, encodeArray, helement]
  fits element := .obj (by simp [(restores_scalar sp).fits])

/-- A scalar type has none of the members of an array type. -/
theorem decodeArray_encodeScalar (sp : Spelling) (name : String) :
    decodeArray (encodeScalar sp name) = .bad [⟨[.key "arrayType"], .missing⟩] := by
  cases sp <;> simp [decodeArray, encodeScalar]

theorem restores (sp : Spelling) : Restores decode (encode sp) 2 where
  decode_encode
    | scalar name => by
      rw [decode, encode, Decoder.either, decodeArray_encodeScalar, (restores_scalar sp).decode_encode]
      rfl
    | array element => by
      rw [decode, encode, Decoder.either, (restores_array sp).decode_encode]
      rfl
  fits
    | scalar name => ((restores_scalar sp).fits name).mono (by omega)
    | array element => (restores_array sp).fits element

end ColumnType

theorem DefaultMarker.ofName?_name : ∀ m : DefaultMarker, ofName? m.name = some m
  | noDefault | hasDefault => by decide

theorem IdentityMarker.ofName?_name : ∀ m : IdentityMarker, ofName? m.name = some m
  | notIdentity | byDefault | always => by decide

theorem GeneratedMarker.ofName?_name : ∀ m : GeneratedMarker, ofName? m.name = some m
  | notGenerated | stored => by decide

namespace Column

section Marker

variable {α : Type} [DecidableEq α] {name : α → String}

/-- Among the members of a column a marker is found under its own key only. -/
theorem lastMember?_marker (key k : String) (default value : α) :
    Json.lastMember? k (marker key name default value) =
      if key = k ∧ value ≠ default then some (.str (name value)) else none := by
  by_cases hv : value = default <;> by_cases hk : key = k <;> simp [marker, hv, hk]

/-- A marker that was left out is read as its default value. -/
theorem fieldOr_marker {ofName? : String → Option α} (hname : ∀ a, ofName? (name a) = some a)
    {f : Decoder.FieldName} (hf : f.name ≠ f.label) (sp : Spelling) (default value : α)
    {ms : Decoder.Members}
    (hms : ∀ k ∈ [f.name, f.label], Json.lastMember? k ms =
      Json.lastMember? k (marker (sp.pick f.name f.label) name default value)) :
    Decoder.fieldOr f (.member ofName?) default ms = .ok value := by
  have hn := hms f.name (by simp)
  have hl := hms f.label (by simp)
  rw [lastMember?_marker] at hn hl
  by_cases hv : value = default
  · simp [hn, hl, hv]
  · cases sp <;> simp [hn, hl, hv, hf, Decoder.member, hname]

end Marker

theorem restores (sp : Spelling) : Restores decode (encode sp) 3 where
  decode_encode c := by
    have hfind (k : String) := Decoder.lastMember?_append k
    have htype := (ColumnType.restores sp).decode_encode c.type
    have hdescription := (Restores.text.nullable (by simp)).decode_encode c.description
    simp only [decode, encode, Decoder.record]
    rw [fieldOr_marker DefaultMarker.ofName?_name (by decide) sp .noDefault c.default
        (by cases sp <;> simp [hfind, lastMember?_marker]),
      fieldOr_marker IdentityMarker.ofName?_name (by decide) sp .notIdentity c.identity
        (by cases sp <;> simp [hfind, lastMember?_marker]),
      fieldOr_marker GeneratedMarker.ofName?_name (by decide) sp .notGenerated c.generated
        (by cases sp <;> simp [hfind, lastMember?_marker])]
    cases sp <;> simp [hfind, lastMember?_marker, htype, hdescription, Restores.text.decode_encode,
      Restores.flag.decode_encode]
  fits c := by
    have hmarker {α : Type} [DecidableEq α] (key : String) (name : α → String) (default value : α) :
        ∀ m ∈ marker key name default value, Fits 2 m.2 := by
      unfold marker
      split <;> simp [Fits.str]
    have hdescription := (Restores.text.nullable (by simp)).fits c.description
    refine .obj fun m hm => ?_
    simp only [List.mem_append] at hm
    rcases hm with (((hm | hm) | hm) | hm) | hm
    · simp only [List.mem_cons, List.not_mem_nil, or_false] at hm
      rcases hm with rfl | rfl | rfl
      · exact .str _
      · exact (ColumnType.restores sp).fits c.type
      · exact .bool _
    · exact hmarker _ _ _ _ m hm
    · exact hmarker _ _ _ _ m hm
    · exact hmarker _ _ _ _ m hm
    · rw [List.mem_singleton.1 hm]
      exact hdescription.mono (by omega)

end Column

/-! ## Metadata -/

theorem ForeignRelation.restores (sp : Spelling) : Restores decode (encode sp) 2 where
  decode_encode r := by
    have hcolumns := Restores.text.mapping.decode_encode r.columns
    cases sp <;> simp [decode, encode, Restores.text.decode_encode, hcolumns]
  fits r := .obj (by simp [Fits.str, Restores.text.mapping.fits])

theorem Table.restores (sp : Spelling) : Restores decode (encode sp) 5 where
  decode_encode t := by
    have hdescription := (Restores.text.nullable (by simp)).decode_encode t.description
    have hcolumns := (Column.restores sp).mapping.decode_encode t.columns
    have huniqueness := Restores.strings.mapping.decode_encode t.uniqueness
    have hrelations := (ForeignRelation.restores sp).mapping.decode_encode t.foreignRelations
    cases sp <;> simp [decode, encode, Restores.text.decode_encode, hdescription, hcolumns, huniqueness,
      hrelations]
  fits t := by
    have hdescription := (Restores.text.nullable (by simp)).fits t.description
    have hcolumns := (Column.restores sp).mapping.fits t.columns
    have huniqueness := Restores.strings.mapping.fits t.uniqueness
    have hrelations := (ForeignRelation.restores sp).mapping.fits t.foreignRelations
    exact .obj (by simp [Fits.str, hdescription.mono (Nat.zero_le 4), hcolumns,
      huniqueness.mono (show 2 ≤ 4 by omega), hrelations.mono (show 3 ≤ 4 by omega)])

theorem AggregateFunction.restores (sp : Spelling) : Restores decode (encode sp) 1 where
  decode_encode f := by cases sp <;> simp [decode, encode, Restores.text.decode_encode]
  fits f := .obj (by simp [Fits.str])

theorem ComparisonFunction.restores (sp : Spelling) : Restores decode (encode sp) 1 where
  decode_encode f := by
    cases sp <;> simp [decode, encode, Restores.text.decode_encode, Restores.flag.decode_encode]
  fits f := .obj (by simp [Fits.str, Fits.bool])

theorem Metadata.restores (sp : Spelling) : Restores decode (encode sp) 7 where
  decode_encode m := by
    have htables := (Table.restores sp).mapping.decode_encode m.tables
    have haggregates := (AggregateFunction.restores sp).mapping.mapping.decode_encode m.aggregates
    have hcomparisons := (ComparisonFunction.restores sp).mapping.mapping.decode_encode m.comparisons
    cases sp <;> simp [decode, encode, htables, haggregates, hcomparisons]
  fits m := by
    have htables := (Table.restores sp).mapping.fits m.tables
    have haggregates := (AggregateFunction.restores sp).mapping.mapping.fits m.aggregates
    have hcomparisons := (ComparisonFunction.restores sp).mapping.mapping.fits m.comparisons
    exact .obj (by simp [htables, haggregates.mono (show 3 ≤ 6 by omega),
      hcomparisons.mono (show 3 ≤ 6 by omega)])

theorem Configuration.restores (sp : Spelling) : Restores decode (encode sp) 8 where
  decode_encode c := by
    have hversion : Decoder.literal version (.str version) = .ok () := rfl
    have hmetadata := (Metadata.restores sp).decode_encode c.metadata
    have hoptions := (Options.restores sp).decode_encode c.options
    cases sp <;> simp [decode, encode, hversion, hmetadata, hoptions, Restores.text.decode_encode]
  fits c := by
    have hmetadata := (Metadata.restores sp).fits c.metadata
    have hoptions := (Options.restores sp).fits c.options
    exact .obj (by simp [Fits.str, hmetadata, hoptions.mono (show 3 ≤ 7 by omega)])

end Records

/-! ## Files -/

namespace Configuration

theorem ofText_render (sp : Spelling) (layout : Json.Layout) (c : Configuration) :
    Decoder.ofText decode ((c.encode sp).render layout) = .ok c := by
  have hbs : Json.AllBlank [] := fun b hb => by cases hb
  simpa using (restores sp).ofText_render (by decide) layout c hbs

theorem load_write (c : Configuration) : load c.write = .ok c := by
  have hbs : Json.AllBlank ['\n'] := by simp [Json.AllBlank, Json.isBlank]
  exact (restores .byLabel).ofText_render (by decide) (.indented 2) c hbs

/-- A configuration is read back from its file, so that writing it again gives the same text; so it is from
its document in every layout and under either spelling of the fields. -/
theorem round_trip (c : Configuration) :
    load c.write = .ok c ∧ (load c.write).map write = .ok c.write ∧
      ∀ (sp : Spelling) (layout : Json.Layout),
        Decoder.ofText decode ((c.encode sp).render layout) = .ok c := by
  refine ⟨load_write c, ?_, fun sp layout => ofText_render sp layout c⟩
  rw [load_write]
  rfl

end Configuration

end CatalogSchema
