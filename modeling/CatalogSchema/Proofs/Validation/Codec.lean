import CatalogSchema.Json.Encoder
import CatalogSchema.Proofs.Json.RoundTrip
import CatalogSchema.Proofs.KeyedMap
import CatalogSchema.Validation.Decoder

/-!
# Decoders that undo an encoder

`Decoder.Restores` says that a decoder gives back every value from the document it was encoded to, and
how deep such a document nests. It goes through lists, mappings and null; from its text, in any layout,
the value is then decoded as well (`Decoder.Restores.ofText_render`).
-/

namespace CatalogSchema

namespace Json.Fits

theorem mono {m n : Nat} {j : Json} (h : Fits m j) (hmn : m ≤ n) : Fits n j := by
  induction h generalizing n with
  | null => exact .null
  | bool b => exact .bool b
  | int h => exact .int h
  | str s => exact .str s
  | arr _ ih =>
    obtain ⟨n, rfl⟩ : ∃ k, n = k + 1 := ⟨n - 1, by omega⟩
    exact .arr fun x hx => ih x hx (by omega)
  | obj _ ih =>
    obtain ⟨n, rfl⟩ : ∃ k, n = k + 1 := ⟨n - 1, by omega⟩
    exact .obj fun m hm => ih m hm (by omega)

theorem ofOption {α : Type} {encode : α → Json} {n : Nat} (h : ∀ a, Fits n (encode a)) (o : Option α) :
    Fits n (.ofOption encode o) := by
  cases o with
  | none => exact .null
  | some a => exact h a

end Json.Fits

namespace Decoder

open Json (Fits)

/-- The decoder gives back every value that was encoded, and a document of one nests at most `depth` arrays
and objects. -/
structure Restores {α : Type} (d : Decoder α) (encode : α → Json) (depth : Nat) : Prop where
  decode_encode : ∀ a, d (encode a) = .ok a
  fits : ∀ a, Fits depth (encode a)

/-! ## Encoded values in lists and under null -/

section Encoded

variable {α : Type} {d : Decoder α} {encode : α → Json} (h : ∀ a, d (encode a) = .ok a)

include h

/-- A value that is never written as null may be absent. -/
theorem nullable_encode (hnull : ∀ a, encode a ≠ .null) (o : Option α) :
    nullable d (.ofOption encode o) = .ok o := by
  cases o with
  | none => rfl
  | some a => rw [Json.ofOption, nullable.eq_2 _ _ (hnull a), h, Checked.map_ok]

theorem itemsFrom_encode (i : Nat) (xs : List α) : itemsFrom d i (xs.map encode) = .ok xs := by
  induction xs generalizing i with
  | nil => rfl
  | cons x xs ih => simp [itemsFrom, h, ih]

end Encoded

/-! ## Members of a record -/

theorem lastMember?_append (key : String) (ms ns : List (String × Json)) :
    Json.lastMember? key (ms ++ ns) = (Json.lastMember? key ns).or (Json.lastMember? key ms) := by
  induction ms with
  | nil => simp [Json.lastMember?]
  | cons m ms ih =>
    obtain ⟨k, j⟩ := m
    rw [List.cons_append, Json.lastMember?, ih, Json.lastMember?, Option.or_assoc]

namespace Restores

variable {α : Type} {d : Decoder α} {encode : α → Json} {depth : Nat}

theorem mono (h : Restores d encode depth) {n : Nat} (hn : depth ≤ n) : Restores d encode n :=
  ⟨h.decode_encode, fun a => (h.fits a).mono hn⟩

theorem text : Restores Decoder.text .str 0 := ⟨fun _ => rfl, .str⟩

theorem flag : Restores Decoder.flag .bool 0 := ⟨fun _ => rfl, .bool⟩

theorem nullable (h : Restores d encode depth) (hnull : ∀ a, encode a ≠ .null) :
    Restores (.nullable d) (.ofOption encode) depth where
  decode_encode := nullable_encode h.decode_encode hnull
  fits := Fits.ofOption h.fits

theorem list (h : Restores d encode depth) :
    Restores (.list d) (fun xs => .arr (xs.map encode)) (depth + 1) where
  decode_encode := itemsFrom_encode h.decode_encode 0
  fits xs := .arr fun j hj => by
    obtain ⟨x, -, rfl⟩ := List.mem_map.1 hj
    exact h.fits x

theorem strings : Restores (.list .text) Json.ofStrings 1 := text.list

theorem entries (h : Restores d encode depth) (es : List (String × α)) :
    entries .ok d (es.map fun e => (e.1, encode e.2)) = .ok es := by
  induction es with
  | nil => rfl
  | cons e es ih => simp [Decoder.entries, h.decode_encode, ih]

theorem mapping (h : Restores d encode depth) :
    Restores (.mapping d) (Json.ofMap encode) (depth + 1) where
  decode_encode m := by
    rw [Decoder.mapping, Json.ofMap, mappingBy, h.entries, Checked.map_ok, OrderedMap.ofList_entries]
  fits m := .obj fun j hj => by
    obtain ⟨e, -, rfl⟩ := List.mem_map.1 hj
    exact h.fits e.2

/-- A value is read from its text, in every layout and with blanks at its end. -/
theorem ofText_render (h : Restores d encode depth) (hdepth : depth ≤ Json.maxDepth) (layout : Json.Layout)
    (a : α) {bs : List Char} (hbs : Json.AllBlank bs) :
    Decoder.ofText d (Json.render layout (encode a) ++ String.ofList bs) = .ok a := by
  rw [ofText, Json.parse_render layout ((h.fits a).mono hdepth) hbs]
  exact h.decode_encode a

end Restores

end Decoder

end CatalogSchema
