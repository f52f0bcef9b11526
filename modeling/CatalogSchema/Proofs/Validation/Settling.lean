import CatalogSchema.Proofs.Json.ShortIntegers
import CatalogSchema.Proofs.Validation.Codec

/-!
# Decoders that settle

Lenient decoders take many documents to one value. `Decoder.Settles` says that a value is decoded from what
it is encoded to, and that this can be written and read when the value was decoded from a document with short
integers. It goes through null, lists and the fields of records, where `Checked.Ensures` carries what is known
of the parts to the whole.
-/

namespace CatalogSchema

open Json (IsShort HasShortIntegers Fits)

/-! ## Integers that were read -/

theorem Decimal.isShort_of_toWhole {x : Decimal} {n : Int} (h : x.toWhole = .integer n) : IsShort n := by
  have hheld (negative : Bool) (k : Nat)
      (hk : (if k < wordBound then Whole.integer (Json.signed negative k) else .outOfRange) = .integer n) :
      n.natAbs < wordBound := by
    split at hk
    · next hlt =>
      cases hk
      rwa [Json.natAbs_signed]
    · cases hk
  have hword : n.natAbs < wordBound := by
    cases x with
    | finite negative m e =>
      simp only [toWhole] at h
      split at h
      · cases h
      · split at h
        · cases h
        · exact hheld negative _ h
    | infinite negative => cases h
    | notANumber => cases h
  have hdigits : wordBound < 10 ^ 19 := by decide
  exact Json.isShort_of_lt (Nat.lt_trans hword hdigits) (by decide) (by decide)

namespace IntegerText

theorem isShort_of_readDigits {negative : Bool} {cs : List Char} {n : Int}
    (h : readDigits negative cs = .integer n) : IsShort n := by
  have hdigits : ∀ c ∈ (Json.digits cs).1, c.isDigit := fun c => Json.isDigit_of_mem_digits
  unfold readDigits at h
  split at h
  · cases h
  · cases h
  · next ds rest hne _ hds =>
    rw [hds] at hdigits
    split at h
    · cases h
    · next hlong =>
      split at h
      · cases h
        exact Json.isShort_of_digits hne hdigits (Bool.eq_false_iff.2 hlong) negative
      · cases h

theorem isShort_of_readSigned {cs : List Char} {n : Int} (h : readSigned cs = .integer n) : IsShort n := by
  unfold readSigned at h
  split at h
  · exact isShort_of_readDigits h
  · exact isShort_of_readDigits h

theorem isShort_of_read {s : String} {n : Int} (h : read s = .integer n) : IsShort n := by
  unfold read at h
  split at h
  · split at h
    · next hcleared =>
      cases h
      obtain ⟨cs, -, hcs⟩ := Option.map_eq_some_iff.1 hcleared
      exact isShort_of_readSigned hcs
    · cases h
  · exact isShort_of_readSigned h

/-- The digits of a natural number are read back. -/
theorem readDigits_toDigits (negative : Bool) {n : Nat} (h : Json.isTooLong (Nat.toDigits 10 n) = false) :
    readDigits negative (Nat.toDigits 10 n) = .integer (Json.signed negative n) := by
  have hread : Json.digits (Nat.toDigits 10 n ++ []) = (Nat.toDigits 10 n, []) :=
    Json.digits_toDigits n fun c hc => by cases hc
  rw [List.append_nil] at hread
  unfold readDigits
  rw [hread]
  split
  · next hnil => exact absurd (Prod.mk.inj hnil).1 Nat.toDigits_ne_nil
  · next hzero => exact absurd (Prod.mk.inj hzero).1 (Json.toDigits_ne_zero_cons n _ _)
  · next hdigits =>
    obtain ⟨rfl, rfl⟩ := Prod.mk.inj hdigits
    rw [if_neg (Bool.eq_false_iff.1 h), if_pos rfl, Nat.ofDigitChars_toDigits (by omega) (by omega)]

theorem readSigned_renderInt {n : Int} (h : IsShort n) : readSigned (Json.renderInt n) = .integer n := by
  cases n with
  | ofNat m =>
    obtain ⟨c, cs, hcs, hc | ⟨-, hneg⟩⟩ := Json.exists_head_renderInt (.ofNat m)
    · unfold readSigned
      split
      · next heq =>
        rw [hcs, List.cons.injEq] at heq
        rw [heq.1] at hc
        cases hc
      · exact readDigits_toDigits false h
    · cases hneg
  | negSucc m => exact readDigits_toDigits true h

/-- An integer is read back from its text. -/
theorem read_renderInt {n : Int} (h : IsShort n) : read (String.ofList (Json.renderInt n)) = .integer n := by
  rw [read, String.toList_ofList, readSigned_renderInt h]

end IntegerText

theorem Decoder.isShort_of_integerOfText {s : String} {n : Int} (h : integerOfText s = .ok n) : IsShort n := by
  unfold integerOfText at h
  split at h
  · next hread =>
    cases h
    exact IntegerText.isShort_of_read hread
  · cases h
  · cases h

theorem Decoder.integerOfText_renderInt {n : Int} (h : IsShort n) :
    integerOfText (String.ofList (Json.renderInt n)) = .ok n := by
  rw [integerOfText, IntegerText.read_renderInt h]

/-! ## What is known of a value that was read -/

namespace Checked

variable {α β : Type} {P : α → Prop} {Q : β → Prop}

/-- A value, if there is one, has the property. -/
def Ensures (P : α → Prop) (x : Checked α) : Prop := ∀ a, x = .ok a → P a

theorem Ensures.ok {a : α} (h : P a) : (ok a).Ensures P := fun b hb => by
  cases hb
  exact h

theorem Ensures.any (x : Checked α) : x.Ensures fun _ => True := fun _ _ => trivial

theorem Ensures.map {x : Checked α} {f : α → β} (hx : x.Ensures P) (hf : ∀ a, P a → Q (f a)) :
    (f <$> x).Ensures Q := by
  intro b hb
  cases x with
  | ok a =>
    cases hb
    exact hf a (hx a rfl)
  | bad issues => cases hb

theorem Ensures.seq {f : Checked (α → β)} {x : Checked α} (hf : f.Ensures fun g => ∀ a, P a → Q (g a))
    (hx : x.Ensures P) : (f <*> x).Ensures Q := by
  intro b hb
  cases f with
  | ok g =>
    cases x with
    | ok a =>
      cases hb
      exact hf g rfl a (hx a rfl)
    | bad issues => cases hb
  | bad issues => cases x <;> cases hb

theorem Ensures.within {x : Checked α} (hx : x.Ensures P) (step : PathStep) : (x.within step).Ensures P := by
  intro a ha
  cases x with
  | ok b =>
    cases ha
    exact hx _ rfl
  | bad issues => cases ha

/-- Where a function that was read gave a value, its argument was read as well. -/
theorem exists_of_seq {f : Checked (α → β)} {x : Checked α} {b : β} (h : f <*> x = .ok b) :
    ∃ g a, f = .ok g ∧ x = .ok a ∧ g a = b := by
  cases f with
  | ok g =>
    cases x with
    | ok a => exact ⟨g, a, rfl, rfl, ok.inj h⟩
    | bad issues => cases h
  | bad issues => cases x <;> cases h

theorem toOption_eq_some_iff {x : Checked α} {a : α} : x.toOption = some a ↔ x = .ok a := by
  cases x <;> simp [toOption]

end Checked

/-! ## Decoders -/

namespace Decoder

/-- A value is decoded from what it is encoded to; and that can be written and read, nesting at most `depth`
arrays and objects, when the value was decoded from a document with short integers. -/
structure Settles {α : Type} (d : Decoder α) (encode : α → Json) (depth : Nat) : Prop where
  decode_encode : ∀ a, d (encode a) = .ok a
  fits : ∀ j, j.HasShortIntegers → (d j).Ensures fun a => Fits depth (encode a)

variable {α : Type} {d : Decoder α} {encode : α → Json} {depth : Nat}

theorem Restores.settles (h : Restores d encode depth) : Settles d encode depth :=
  ⟨h.decode_encode, fun _ _ a _ => h.fits a⟩

namespace Settles

theorem text : Settles Decoder.text .str 0 := Restores.text.settles

theorem flag : Settles Decoder.flag .bool 0 := Restores.flag.settles

theorem int : Settles Decoder.int .int 0 where
  decode_encode _ := rfl
  fits j hj n h := by
    refine .int ?_
    cases hj with
    | null | arr | obj => cases h
    | bool b =>
      cases h
      cases b <;> exact Json.isShort_of_lt (k := 1) (by decide) (by decide) (by decide)
    | int hn =>
      cases h
      exact hn
    | decimal x =>
      simp only [Decoder.int] at h
      split at h
      · next hwhole =>
        cases h
        exact Decimal.isShort_of_toWhole hwhole
      · cases h
      · cases h
      · cases h
    | str s => exact isShort_of_integerOfText h

theorem nullable (h : Settles d encode depth) (hnull : ∀ a, encode a ≠ .null) :
    Settles (.nullable d) (.ofOption encode) depth where
  decode_encode := nullable_encode h.decode_encode hnull
  fits j hj := by
    cases j with
    | null => exact .ok .null
    | _ => exact (h.fits _ hj).map fun a ha => ha

theorem ensures_itemsFrom (h : Settles d encode depth) (js : List Json) (hjs : ∀ j ∈ js, j.HasShortIntegers)
    (i : Nat) : (itemsFrom d i js).Ensures fun as => ∀ a ∈ as, Fits depth (encode a) := by
  induction js generalizing i with
  | nil => exact .ok (by simp)
  | cons j js ih =>
    obtain ⟨hj, hjs⟩ := List.forall_mem_cons.1 hjs
    have hcons (a : α) (ha : Fits depth (encode a)) (as : List α) (has : ∀ b ∈ as, Fits depth (encode b)) :
        ∀ b ∈ a :: as, Fits depth (encode b) := by simpa [ha] using has
    exact (((h.fits j hj).within _).map hcons).seq (ih hjs (i + 1))

theorem list (h : Settles d encode depth) :
    Settles (.list d) (fun as => .arr (as.map encode)) (depth + 1) where
  decode_encode := itemsFrom_encode h.decode_encode 0
  fits j hj := by
    cases hj with
    | arr hjs =>
      intro as has
      refine .arr fun j hj => ?_
      obtain ⟨a, ha, rfl⟩ := List.mem_map.1 hj
      exact h.ensures_itemsFrom _ hjs 0 as has a ha
    | _ => exact fun _ has => by cases has

theorem ints : Settles (.list .int) Json.ofInts 1 := int.list

end Settles

/-! ## Records -/

theorem mem_of_lastMember? {key : String} {ms : Members} {j : Json} (h : Json.lastMember? key ms = some j) :
    ∃ m ∈ ms, m.2 = j := by
  induction ms with
  | nil => cases h
  | cons m ms ih =>
    obtain ⟨k, i⟩ := m
    rw [Json.lastMember?] at h
    rcases Option.or_eq_some_iff.1 h with hlast | ⟨-, hfirst⟩
    · obtain ⟨m, hm, hj⟩ := ih hlast
      exact ⟨m, List.mem_cons_of_mem _ hm, hj⟩
    · split at hfirst
      · exact ⟨(k, i), List.mem_cons_self, Option.some.inj hfirst⟩
      · cases hfirst

theorem mem_of_find? {f : FieldName} {ms : Members} {key : String} {j : Json}
    (h : find? f ms = some (key, j)) : ∃ m ∈ ms, m.2 = j := by
  unfold find? at h
  split at h
  · next hlabel =>
    cases h
    exact mem_of_lastMember? hlabel
  · obtain ⟨i, hname, he⟩ := Option.map_eq_some_iff.1 h
    cases he
    exact mem_of_lastMember? hname

section Fields

variable {P : α → Prop} {ms : Members} (hms : ∀ m ∈ ms, m.2.HasShortIntegers) {f : FieldName}

include hms

theorem ensures_field (h : ∀ j, j.HasShortIntegers → (d j).Ensures P) : (field f d ms).Ensures P := by
  unfold field
  split
  · next key j hfind =>
    obtain ⟨m, hm, rfl⟩ := mem_of_find? hfind
    exact (h _ (hms m hm)).within _
  · exact fun a ha => by cases ha

theorem ensures_fieldOr (h : ∀ j, j.HasShortIntegers → (d j).Ensures P) {default : α} (hdefault : P default) :
    (fieldOr f d default ms).Ensures P := by
  unfold fieldOr
  split
  · next key j hfind =>
    obtain ⟨m, hm, rfl⟩ := mem_of_find? hfind
    exact (h _ (hms m hm)).within _
  · exact .ok hdefault

theorem Settles.field (h : Settles d encode depth) :
    (Decoder.field f d ms).Ensures fun a => Fits depth (encode a) :=
  ensures_field hms h.fits

theorem Settles.fieldOr (h : Settles d encode depth) {default : α} (hdefault : Fits depth (encode default)) :
    (Decoder.fieldOr f d default ms).Ensures fun a => Fits depth (encode a) :=
  ensures_fieldOr hms h.fits hdefault

end Fields

theorem ensures_record {P : α → Prop} {read : Members → Checked α}
    (h : ∀ ms : Members, (∀ m ∈ ms, m.2.HasShortIntegers) → (read ms).Ensures P) (j : Json)
    (hj : j.HasShortIntegers) : (record read j).Ensures P := by
  cases hj with
  | obj hms => exact h _ hms
  | _ => exact fun _ ha => by cases ha

end Decoder

end CatalogSchema
