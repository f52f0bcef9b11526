import CatalogSchema.Catalog.Snapshot
import CatalogSchema.Proofs.Validation.Settling

/-!
# Snapshots are read back

Many texts are read as one snapshot: integers and flags may be spelled in several ways, fields may be left
out, and the keys of the system catalogs may repeat. What a snapshot is written as is a fixed point among them
(`Snapshot.dump_is_read_back`). A row is written so that it can be read again whenever it was read itself, and
so is each collection; the keys of the system catalogs keep their order, on which the identifier of the catalog
of relations depends.
-/

namespace CatalogSchema

open Decoder (Settles ensures_record)
open Decoder.Settles (int ints text flag)
open Json (Fits)

-- a member is found by running through the written members, whose keys are known texts
attribute [local simp] Decoder.record Decoder.field Decoder.fieldOr Decoder.find? Decoder.FieldName.plain
  Json.lastMember?

/-! ## Rows -/

/-- What does not nest fits under any bound. -/
theorem Json.Fits.lift {depth : Nat} {j : Json} (h : Fits 0 j) : Fits depth j := h.mono (Nat.zero_le depth)

theorem NamespaceRow.settles : Settles decode encode 1 where
  decode_encode _ := rfl
  fits := ensures_record fun ms hms => by
    refine (int.field hms).map ?_ |>.seq (text.field hms)
    intro oid hoid name hname
    exact .obj (by simp [*])

theorem ClassRow.settles : Settles decode encode 1 where
  decode_encode _ := rfl
  fits := ensures_record fun ms hms => by
    refine (int.field hms).map ?_ |>.seq (text.field hms) |>.seq (int.field hms) |>.seq (text.field hms)
    intro oid hoid name hname schema hschema kind hkind
    exact .obj (by simp [*])

theorem AttributeRow.settles : Settles decode encode 1 where
  decode_encode _ := rfl
  fits := ensures_record fun ms hms => by
    refine (int.field hms).map ?_ |>.seq (text.field hms) |>.seq (int.field hms) |>.seq (int.field hms)
      |>.seq (flag.fieldOr hms (.bool _)) |>.seq (flag.fieldOr hms (.bool _))
      |>.seq (text.fieldOr hms (.str _)) |>.seq (text.fieldOr hms (.str _))
      |>.seq (flag.fieldOr hms (.bool _))
    intro relation hrelation name hname number hnumber type htype notNull hnotNull hasDefault hhasDefault
      identity hidentity generated hgenerated dropped hdropped
    exact .obj (by simp [*])

theorem TypeRow.settles : Settles decode encode 1 where
  decode_encode _ := rfl
  fits := ensures_record fun ms hms => by
    refine (int.field hms).map ?_ |>.seq (text.field hms) |>.seq (int.field hms)
      |>.seq (text.fieldOr hms (.str _)) |>.seq (text.fieldOr hms (.str _))
      |>.seq (int.fieldOr hms (by decide))
    intro oid hoid name hname schema hschema kind hkind category hcategory element helement
    exact .obj (by simp [*])

theorem CastRow.settles : Settles decode encode 1 where
  decode_encode _ := rfl
  fits := ensures_record fun ms hms => by
    refine (int.field hms).map ?_ |>.seq (int.field hms) |>.seq (text.field hms)
    intro source hsource target htarget context hcontext
    exact .obj (by simp [*])

theorem ProcRow.settles : Settles decode encode 2 where
  decode_encode r := by
    simp [decode, encode, int.decode_encode, text.decode_encode, ints.decode_encode]
  fits := ensures_record fun ms hms => by
    refine (int.field hms).map ?_ |>.seq (text.field hms) |>.seq (int.field hms)
      |>.seq (text.fieldOr hms (.str _)) |>.seq (int.field hms)
      |>.seq (ints.fieldOr hms (by decide)) |>.seq (int.fieldOr hms (by decide))
      |>.seq (int.fieldOr hms (by decide))
    intro oid hoid name hname schema hschema kind hkind returnType hreturn arguments harguments variadic
      hvariadic defaults hdefaults
    exact .obj (by simp [Fits.lift, *])

theorem OperatorRow.settles : Settles decode encode 1 where
  decode_encode _ := rfl
  fits := ensures_record fun ms hms => by
    refine (int.field hms).map ?_ |>.seq (text.field hms) |>.seq (int.field hms) |>.seq (int.field hms)
      |>.seq (int.field hms)
    intro oid hoid name hname left hleft right hright result hresult
    exact .obj (by simp [*])

theorem AggregateRow.settles : Settles decode encode 1 where
  decode_encode _ := rfl
  fits := ensures_record fun ms hms => by
    refine (int.field hms).map ?_ |>.seq (int.fieldOr hms (by decide))
    intro proc hproc direct hdirect
    exact .obj (by simp [*])

theorem ConstraintRow.settles : Settles decode encode 2 where
  decode_encode r := by
    have hkeys := (ints.nullable (by simp [Json.ofInts])).decode_encode
    simp [decode, encode, int.decode_encode, text.decode_encode, hkeys]
  fits := ensures_record fun ms hms => by
    have hkeys : Settles (.nullable (.list .int)) (.ofOption .ofInts) 1 := ints.nullable (by simp [Json.ofInts])
    refine (int.field hms).map ?_ |>.seq (text.field hms) |>.seq (text.field hms) |>.seq (int.field hms)
      |>.seq (int.fieldOr hms (by decide)) |>.seq (hkeys.fieldOr hms .null) |>.seq (hkeys.fieldOr hms .null)
    intro oid hoid name hname kind hkind relation hrelation foreign hforeign key hkey foreignKey hforeignKey
    exact .obj (by simp [Fits.lift, *])

theorem DescriptionRow.settles : Settles decode encode 1 where
  decode_encode _ := rfl
  fits := ensures_record fun ms hms => by
    refine (int.field hms).map ?_ |>.seq (int.field hms) |>.seq (int.fieldOr hms (by decide))
      |>.seq (Settles.text.field hms)
    intro object hobject catalog hcatalog part hpart comment hcomment
    exact .obj (by simp [*])

/-! ## The system catalogs -/

namespace Decoder

/-- All keys have few enough digits to be read. -/
def HasShortKeys (m : OrderedMap Int String) : Prop := ∀ e ∈ m.entries, Json.IsShort e.1

theorem ensures_entries (ms : Members) :
    (entries integerOfText text ms).Ensures fun es => ∀ e ∈ es, Json.IsShort e.1 := by
  induction ms with
  | nil => exact .ok (by simp)
  | cons m ms ih =>
    obtain ⟨key, j⟩ := m
    have hkey : (integerOfText key).Ensures Json.IsShort := fun n => isShort_of_integerOfText
    refine ((hkey.within _).within _).map ?_ |>.seq (.any _) |>.seq ih
    intro n hn name _ es hes
    exact List.forall_mem_cons.2 ⟨hn, hes⟩

theorem ensures_integerMapping (j : Json) : (integerMapping text j).Ensures HasShortKeys := by
  cases j with
  | obj ms =>
    exact (ensures_entries ms).map fun es hes e he => hes e (OrderedMap.mem_of_mem_entries_ofList he)
  | _ => exact fun m hm => by cases hm

theorem entries_encode {es : List (Int × String)} (h : ∀ e ∈ es, Json.IsShort e.1) :
    entries integerOfText text (es.map fun e => (String.ofList (Json.renderInt e.1), .str e.2)) = .ok es := by
  induction es with
  | nil => rfl
  | cons e es ih =>
    obtain ⟨he, hes⟩ := List.forall_mem_cons.1 h
    simp [entries, integerOfText_renderInt he, ih hes, text]

theorem integerMapping_encode {m : OrderedMap Int String} (h : HasShortKeys m) :
    integerMapping text (.obj (m.entries.map fun e => (String.ofList (Json.renderInt e.1), .str e.2))) =
      .ok m := by
  rw [integerMapping, mappingBy, entries_encode h, Checked.map_ok, OrderedMap.ofList_entries]

end Decoder

/-! ## Snapshots -/

namespace Snapshot

open Decoder (HasShortKeys ensures_field ensures_integerMapping)

theorem isShort_classCatalog {s : Snapshot} (h : HasShortKeys s.rows.catalogs) :
    Json.IsShort s.classCatalog := by
  obtain ⟨e, he, hkey⟩ := Option.map_eq_some_iff.1 s.keyOf_classCatalog
  exact hkey ▸ h e (List.mem_of_find?_eq_some he)

theorem decodeRows_encode {s : Snapshot} (h : HasShortKeys s.rows.catalogs) :
    decodeRows s.encode = .ok s.rows := by
  simp [decodeRows, encode, NamespaceRow.settles.list.decode_encode, ClassRow.settles.list.decode_encode,
    AttributeRow.settles.list.decode_encode, TypeRow.settles.list.decode_encode,
    CastRow.settles.list.decode_encode, ProcRow.settles.list.decode_encode,
    OperatorRow.settles.list.decode_encode, AggregateRow.settles.list.decode_encode,
    ConstraintRow.settles.list.decode_encode, DescriptionRow.settles.list.decode_encode,
    Decoder.integerMapping_encode h, Decoder.nullable, int.decode_encode]

theorem ensures_decodeRows : ∀ j : Json, j.HasShortIntegers → (decodeRows j).Ensures fun rows =>
    HasShortKeys rows.catalogs ∧ ∀ s : Snapshot, s.rows = rows → Fits 4 s.encode :=
  ensures_record fun ms hms => by
    have hcatalogs := ensures_field hms (f := .plain "catalog_by_oid") fun j _ => ensures_integerMapping j
    refine (NamespaceRow.settles.list.fieldOr hms (.arr (by simp))).map ?_
      |>.seq (ClassRow.settles.list.fieldOr hms (.arr (by simp)))
      |>.seq (AttributeRow.settles.list.fieldOr hms (.arr (by simp)))
      |>.seq (TypeRow.settles.list.fieldOr hms (.arr (by simp)))
      |>.seq (CastRow.settles.list.fieldOr hms (.arr (by simp)))
      |>.seq (ProcRow.settles.list.fieldOr hms (.arr (by simp)))
      |>.seq (OperatorRow.settles.list.fieldOr hms (.arr (by simp)))
      |>.seq (AggregateRow.settles.list.fieldOr hms (.arr (by simp)))
      |>.seq (ConstraintRow.settles.list.fieldOr hms (.arr (by simp)))
      |>.seq (DescriptionRow.settles.list.fieldOr hms (.arr (by simp)))
      |>.seq hcatalogs |>.seq (.any _)
    intro namespaces hnamespaces classes hclasses attributes hattributes types htypes casts hcasts procs hprocs
      operators hoperators aggregates haggregates constraints hconstraints descriptions hdescriptions
      catalogs hcatalogs _ _
    refine ⟨hcatalogs, fun s hs => ?_⟩
    have hclass : Json.IsShort s.classCatalog := isShort_classCatalog (by rw [hs]; exact hcatalogs)
    have hnames :
        Fits 3 (.obj (catalogs.entries.map fun e => (String.ofList (Json.renderInt e.1), .str e.2))) :=
      .obj fun m hm => by
        obtain ⟨e, -, rfl⟩ := List.mem_map.1 hm
        exact .str e.2
    cases s with
    | mk =>
      cases hs
      refine .obj ?_
      simp only [List.forall_mem_cons]
      exact ⟨hnamespaces.mono (by decide), hclasses.mono (by decide), hattributes.mono (by decide),
        htypes.mono (by decide), hcasts.mono (by decide), hprocs, hoperators.mono (by decide),
        haggregates.mono (by decide), hconstraints, hdescriptions.mono (by decide), hnames, .int hclass,
        by simp⟩

theorem decode_eq_ok_iff {j : Json} {s : Snapshot} : decode j = .ok s ↔ decodeRows j = .ok s.rows := by
  constructor
  · intro h
    cases hrows : decodeRows j with
    | ok rows =>
      rw [decode, hrows, Checked.andThen_ok] at h
      split at h
      · next t ht =>
        cases h
        rw [ofRows?_eq_some_iff.1 ht]
      · cases h
    | bad issues =>
      rw [decode, hrows] at h
      cases h
  · intro hrows
    rw [decode, hrows, Checked.andThen_ok, ofRows?_rows]

/-- The members other than the identifier of the catalog of relations. -/
def proper (ms : Decoder.Members) : Decoder.Members := ms.filter fun m => m.1 ≠ "PG_CLASS"

theorem lastMember?_proper {key : String} (h : key ≠ "PG_CLASS") (ms : Decoder.Members) :
    Json.lastMember? key (proper ms) = Json.lastMember? key ms := by
  induction ms with
  | nil => rfl
  | cons m ms ih =>
    obtain ⟨k, j⟩ := m
    by_cases hk : k = "PG_CLASS"
    · subst hk
      have hdrop : proper (("PG_CLASS", j) :: ms) = proper ms := by simp [proper]
      rw [hdrop, ih, Json.lastMember?, if_neg h.symm, Option.or_none]
    · have hkeep : proper ((k, j) :: ms) = (k, j) :: proper ms := by simp [proper, hk]
      rw [hkeep, Json.lastMember?, ih, Json.lastMember?]

theorem find?_plain_congr {ms ns : Decoder.Members} (h : proper ns = proper ms) {name : String}
    (hname : name ≠ "PG_CLASS") : Decoder.find? (.plain name) ns = Decoder.find? (.plain name) ms := by
  have hlast : Json.lastMember? name ns = Json.lastMember? name ms := by
    rw [← lastMember?_proper hname, h, lastMember?_proper hname]
  simp only [Decoder.find?, Decoder.FieldName.plain, hlast]

/-- The identifier of the catalog of relations that a document gives does not count. -/
theorem decodeRows_congr {ms ns : Decoder.Members} (h : proper ns = proper ms) {n : Option Int}
    (hn : Decoder.fieldOr (.plain "PG_CLASS") (.nullable .int) none ns = .ok n) {rows : CatalogRows}
    (hrows : decodeRows (.obj ms) = .ok rows) : decodeRows (.obj ns) = .ok rows := by
  have hfield {α : Type} (d : Decoder α) {name : String} (hname : name ≠ "PG_CLASS") :
      Decoder.field (.plain name) d ns = Decoder.field (.plain name) d ms := by
    rw [Decoder.field, find?_plain_congr h hname, Decoder.field]
  have hfieldOr {α : Type} (d : Decoder α) (a : α) {name : String} (hname : name ≠ "PG_CLASS") :
      Decoder.fieldOr (.plain name) d a ns = Decoder.fieldOr (.plain name) d a ms := by
    rw [Decoder.fieldOr, find?_plain_congr h hname, Decoder.fieldOr]
  rw [decodeRows, Decoder.record] at hrows ⊢
  obtain ⟨g, a, hg, -, rfl⟩ := Checked.exists_of_seq hrows
  have hsame : g n = g a := by
    refine (show Checked.Ensures (fun g => g n = g a) _ from ?_) g hg
    refine (Checked.Ensures.any _).map ?_ |>.seq (.any _) |>.seq (.any _) |>.seq (.any _) |>.seq (.any _)
      |>.seq (.any _) |>.seq (.any _) |>.seq (.any _) |>.seq (.any _) |>.seq (.any _) |>.seq (.any _)
    intros
    rfl
  simp only [hfieldOr, hfield, ne_eq, String.reduceEq, not_false_eq_true, hg, hn, Checked.ok_seq, hsame]

theorem parse_eq_ok_iff {text : String} {s : Snapshot} :
    parse text = .ok s ↔ ∃ j, Json.parse text = some j ∧ decodeRows j = .ok s.rows := by
  unfold parse Decoder.ofText
  cases hj : Json.parse text with
  | some j => simp [decode_eq_ok_iff]
  | none => simp [Checked.fail]

/-- What a snapshot that was read is written as, in any layout, is read as that snapshot: the rows and the
entries of the system catalogs are the same in the same order, the keys being integer texts. The identifier of
the catalog of relations is found anew: two texts that differ in it only are read alike. -/
theorem dump_is_read_back {text : String} {s : Snapshot} (h : parse text = .ok s) :
    (∀ layout, Json.parse (s.encode.render layout) = some s.encode ∧
      parse (s.encode.render layout) = .ok s) ∧
    ∀ {other : String} {ms ns : Decoder.Members} {n : Option Int},
      Json.parse text = some (.obj ms) → Json.parse other = some (.obj ns) → proper ns = proper ms →
      Decoder.fieldOr (.plain "PG_CLASS") (.nullable .int) none ns = .ok n → parse other = .ok s := by
  obtain ⟨j, hj, hrows⟩ := parse_eq_ok_iff.1 h
  constructor
  · intro layout
    obtain ⟨hkeys, hfits⟩ := ensures_decodeRows j (Json.hasShortIntegers_of_parse hj) _ hrows
    have htext := Json.parse_render_self layout ((hfits s rfl).mono (by decide))
    exact ⟨htext, parse_eq_ok_iff.2 ⟨_, htext, decodeRows_encode hkeys⟩⟩
  · intro other ms ns n hms hns hproper hn
    obtain rfl : j = .obj ms := Option.some.inj (hj.symm.trans hms)
    exact parse_eq_ok_iff.2 ⟨_, hns, decodeRows_congr hproper hn hrows⟩

/-- A document with spellings that are not written back: two keys for one integer, integers as flags and texts,
flags as words, fields left out, and an identifier of the catalog of relations that is wrong. -/
def laxMembers : Decoder.Members :=
  [("PG_CLASS", .str "+2_600"),
   ("catalog_by_oid", .obj
     [("01259", .str "pg_proc"), ("2600", .str "pg_class"), (" 1_259 ", .str "pg_class")]),
   ("attributes", .arr [.obj
     [("attnum", .bool true), ("attrelid", .str "16_400.0"), ("attname", .str "id"), ("atttypid", .int 23),
      ("attnotnull", .str "Yes"), ("attisdropped", .int 0), ("attlen", .null)]]),
   ("constraints", .arr
     [.obj [("oid", .int 1), ("conname", .str "sound"), ("contype", .str "c"), ("conrelid", .int 16400),
        ("conkey", .arr [])],
      .obj [("oid", .int 2), ("conname", .str "void"), ("contype", .str "c"), ("conrelid", .int 16400),
        ("conkey", .null)]])]

/-- What the members are read as. -/
def laxSample : Snapshot :=
  let rows : CatalogRows :=
    { namespaces := []
      classes := []
      attributes := [⟨16400, "id", 1, 23, true, false, "", "", false⟩]
      types := []
      casts := []
      procs := []
      operators := []
      aggregates := []
      constraints := [⟨1, "sound", "c", 16400, 0, some [], none⟩, ⟨2, "void", "c", 16400, 0, none, none⟩]
      descriptions := []
      catalogs := .ofList [(1259, "pg_class"), (2600, "pg_class")] }
  ⟨rows, 1259, .ofRows rows, by decide, rfl⟩

theorem lax_sample_is_read_back :
    let lax := (Json.obj laxMembers).render .spaced
    let corrected := (Json.obj (proper laxMembers ++ [("PG_CLASS", .null)])).render (.indented 2)
    parse lax = .ok laxSample ∧ parse (laxSample.encode.render .compact) = .ok laxSample ∧
      parse corrected = .ok laxSample := by
  have hread : Json.parse ((Json.obj laxMembers).render .spaced) = some (.obj laxMembers) :=
    Json.parse_render_self .spaced (by decide +kernel)
  have hrows : (decodeRows (.obj laxMembers)).toOption = some laxSample.rows := by decide +kernel
  have hlax : parse ((Json.obj laxMembers).render .spaced) = .ok laxSample :=
    parse_eq_ok_iff.2 ⟨_, hread, Checked.toOption_eq_some_iff.1 hrows⟩
  obtain ⟨hdump, hignored⟩ := dump_is_read_back hlax
  exact ⟨hlax, (hdump .compact).2,
    hignored (n := none) hread (Json.parse_render_self (.indented 2) (by decide +kernel))
      (by simp [proper, laxMembers]) rfl⟩

end Snapshot

end CatalogSchema
