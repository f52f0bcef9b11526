import CatalogSchema.Text.Encoding
import Mathlib.Data.List.Basic

/-!
# What encodings take and give back

UTF-8 takes every text, an encoding of one byte for each character those whose characters are below its
limit; both read back what they wrote.
-/

namespace CatalogSchema.Encoding

/-- There are bytes for the text. -/
def Takes (e : Encoding) (text : String) : Prop := ∃ content, e.encode text = .ok content

/-- What was written is read back. -/
def IsFaithful (e : Encoding) : Prop :=
  ∀ text content, e.encode text = .ok content → e.decode content = .ok text

theorem utf8_takes (text : String) : utf8.Takes text := ⟨_, rfl⟩

theorem utf8_decode_ofText (text : String) : utf8.decode (.ofText text) = .ok text := by
  have hread : String.fromUTF8? ⟨(FileContent.ofText text).bytes.toArray⟩ = some text := by
    show String.fromUTF8? text.toUTF8 = some text
    rw [String.fromUTF8?, String.toUTF8_eq_toByteArray, dif_pos text.isValidUTF8]
    rfl
  simp only [utf8, hread]

theorem isFaithful_utf8 : utf8.IsFaithful := by
  intro text content h
  obtain rfl := Except.ok.inj h
  exact utf8_decode_ofText text

section SingleByte

variable {name : String} {limit : Nat}

theorem singleByte_takes_iff {text : String} :
    (singleByte name limit).Takes text ↔ ∀ c ∈ text.toList, c.toNat < limit := by
  simp only [Takes, singleByte, List.all_eq_true, decide_eq_true_eq]
  split
  · next h => exact ⟨fun _ => h, fun _ => ⟨_, rfl⟩⟩
  · next h => exact ⟨fun ⟨_, hc⟩ => (nomatch hc), fun h' => absurd h' h⟩

theorem isFaithful_singleByte (hlimit : limit ≤ 256) : (singleByte name limit).IsFaithful := by
  intro text content h
  have hbelow := singleByte_takes_iff.1 ⟨content, h⟩
  have hbyte : ∀ c ∈ text.toList, (UInt8.ofNat c.toNat).toNat = c.toNat := fun c hc =>
    UInt8.toNat_ofNat_of_lt' (Nat.lt_of_lt_of_le (hbelow c hc) hlimit)
  simp only [singleByte, List.all_eq_true, decide_eq_true_eq, if_pos hbelow] at h
  obtain rfl := Except.ok.inj h
  have hnone : (text.toList.map fun c => UInt8.ofNat c.toNat).find? (limit ≤ ·.toNat) = none := by
    rw [List.find?_eq_none]
    intro b hb
    obtain ⟨c, hc, rfl⟩ := List.mem_map.1 hb
    simpa [hbyte c hc] using hbelow c hc
  have hread : (text.toList.map fun c => UInt8.ofNat c.toNat).map (fun b => Char.ofNat b.toNat) =
      text.toList := by
    rw [List.map_map, List.map_congr_left (g := id)]
    · exact List.map_id _
    · intro c hc
      rw [Function.comp_apply, hbyte c hc, Char.ofNat_toNat, id]
  simp only [singleByte, hnone, hread, String.ofList_toList]

example : ascii.IsFaithful ∧ latin1.IsFaithful :=
  ⟨isFaithful_singleByte (by decide), isFaithful_singleByte (by decide)⟩

end SingleByte

end CatalogSchema.Encoding
