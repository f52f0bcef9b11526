import CatalogSchema.Proofs.Json.RoundTrip
import Mathlib.Algebra.Group.Nat.Defs

/-!
# The integers of a document that was read

The reader refuses a number with too many digits, so that every integer of a document that it gives can be
written and read again (`hasShortIntegers_of_parse`).
-/

namespace CatalogSchema

namespace Json

/-! ## Numbers -/

/-- The digits of the integer are not too many to be read. -/
def IsShort (n : Int) : Prop := isTooLong (Nat.toDigits 10 n.natAbs) = false

theorem natAbs_signed (negative : Bool) (n : Nat) : (signed negative n).natAbs = n := by
  cases negative <;> simp [signed]

theorem isDigit_of_mem_digits {cs : List Char} {c : Char} (h : c ∈ (digits cs).1) : c.isDigit := by
  rw [digits, List.span_eq_takeWhile_dropWhile] at h
  exact List.all_eq_true.1 List.all_takeWhile c h

theorem ofDigitChars_lt {ds : List Char} (h : ∀ c ∈ ds, c.isDigit) (init : Nat) :
    Nat.ofDigitChars 10 ds init < 10 ^ ds.length * (init + 1) := by
  induction ds generalizing init with
  | nil => simp
  | cons d ds ih =>
    obtain ⟨hd, hds⟩ := List.forall_mem_cons.1 h
    have hdigit : d.toNat - '0'.toNat ≤ 9 := by
      simp only [Char.isDigit, Bool.and_eq_true, decide_eq_true_eq] at hd
      have : d.toNat ≤ 57 := hd.2
      have : '0'.toNat = 48 := rfl
      omega
    rw [Nat.ofDigitChars_cons]
    refine Nat.lt_of_lt_of_le (ih hds _) ?_
    rw [List.length_cons, Nat.pow_succ, Nat.mul_assoc]
    exact Nat.mul_le_mul_left _ (by omega)

/-- An integer has no more digits than it was read from. -/
theorem isShort_of_digits {ds : List Char} (hne : ds ≠ []) (hds : ∀ c ∈ ds, c.isDigit)
    (h : isTooLong ds = false) (negative : Bool) : IsShort (signed negative (Nat.ofDigitChars 10 ds 0)) := by
  have hlength : (Nat.toDigits 10 (Nat.ofDigitChars 10 ds 0)).length ≤ ds.length := by
    rw [Nat.length_toDigits_le_iff (by omega) (List.length_pos_iff.2 hne)]
    simpa using ofDigitChars_lt hds 0
  rw [IsShort, natAbs_signed]
  simp only [isTooLong, decide_eq_false_iff_not, Nat.not_lt] at h ⊢
  exact Nat.le_trans hlength h

theorem isShort_of_lt {n : Int} {k : Nat} (hn : n.natAbs < 10 ^ k) (hk : 0 < k) (hmax : k ≤ maxWholeDigits) :
    IsShort n := by
  rw [IsShort, isTooLong, decide_eq_false_iff_not, Nat.not_lt]
  exact Nat.le_trans ((Nat.length_toDigits_le_iff (by omega) hk).2 hn) hmax

/-! ## Documents -/

/-- All integers of the document are short. -/
inductive HasShortIntegers : Json → Prop where
  | null : HasShortIntegers .null
  | bool (b : Bool) : HasShortIntegers (.bool b)
  | int {n : Int} (h : IsShort n) : HasShortIntegers (.int n)
  | decimal (x : Decimal) : HasShortIntegers (.decimal x)
  | str (s : String) : HasShortIntegers (.str s)
  | arr {xs : List Json} (h : ∀ x ∈ xs, HasShortIntegers x) : HasShortIntegers (.arr xs)
  | obj {ms : List (String × Json)} (h : ∀ m ∈ ms, HasShortIntegers m.2) : HasShortIntegers (.obj ms)

theorem hasShortIntegers_of_unsignedNumber {negative : Bool} {cs rest : List Char} {j : Json}
    (h : unsignedNumber negative cs = some (j, rest)) : HasShortIntegers j := by
  have hdigits : ∀ c ∈ (digits cs).1, c.isDigit := fun c => isDigit_of_mem_digits
  unfold unsignedNumber at h
  split at h
  · split at h
    · cases h
      exact .decimal _
    · cases h
  · cases h
  · next ds tail hne _ hds =>
    rw [hds] at hdigits
    obtain ⟨_, hguard, h⟩ := Option.bind_eq_some_iff.1 h
    have hlong : isTooLong ds = false := by
      cases hlong : isTooLong ds with
      | false => rfl
      | true =>
        rw [hlong] at hguard
        cases hguard
    obtain ⟨⟨fs, rest₁⟩, -, h⟩ := Option.bind_eq_some_iff.1 h
    obtain ⟨⟨e, rest₂⟩, -, h⟩ := Option.bind_eq_some_iff.1 h
    simp only at h
    split at h
    · cases h
      exact .int (isShort_of_digits hne hdigits hlong negative)
    · cases h
      exact .decimal _

theorem hasShortIntegers_of_number {cs rest : List Char} {j : Json} (h : number cs = some (j, rest)) :
    HasShortIntegers j := by
  unfold number at h
  split at h
  · exact hasShortIntegers_of_unsignedNumber h
  · exact hasShortIntegers_of_unsignedNumber h

/-! ## Values -/

/-- Values, items and members that are read with so much fuel have short integers. -/
structure ReadsShort (fuel : Nat) : Prop where
  value : ∀ {depth cs j rest}, value fuel depth cs = some (j, rest) → HasShortIntegers j
  items : ∀ {depth cs xs rest}, items fuel depth cs = some (xs, rest) → ∀ x ∈ xs, HasShortIntegers x
  members : ∀ {depth cs ms rest}, members fuel depth cs = some (ms, rest) →
    ∀ m ∈ ms, HasShortIntegers m.2

namespace ReadsShort

variable {fuel depth : Nat} {cs rest : List Char} (short : ReadsShort fuel)

include short

theorem value_succ {j : Json} (h : Json.value (fuel + 1) depth cs = some (j, rest)) : HasShortIntegers j := by
  unfold Json.value at h
  split at h
  · cases h
    exact .null
  · cases h
    exact .bool true
  · cases h
    exact .bool false
  · cases h
    exact .decimal _
  · obtain ⟨⟨s, _⟩, -, h⟩ := Option.map_eq_some_iff.1 h
    cases h
    exact .str s
  · split at h
    · cases h
      exact .arr (by simp)
    · cases h
    · obtain ⟨⟨xs, _⟩, hxs, h⟩ := Option.map_eq_some_iff.1 h
      cases h
      exact .arr (short.items hxs)
  · split at h
    · cases h
      exact .obj (by simp)
    · cases h
    · obtain ⟨⟨ms, _⟩, hms, h⟩ := Option.map_eq_some_iff.1 h
      cases h
      exact .obj (short.members hms)
  · exact hasShortIntegers_of_number h

theorem items_succ {xs : List Json} (h : Json.items (fuel + 1) depth cs = some (xs, rest)) :
    ∀ x ∈ xs, HasShortIntegers x := by
  unfold Json.items at h
  split at h
  · cases h
  · next x _ hx =>
    have hx := short.value hx
    split at h
    · obtain ⟨⟨ys, _⟩, hys, h⟩ := Option.map_eq_some_iff.1 h
      cases h
      exact List.forall_mem_cons.2 ⟨hx, short.items hys⟩
    · cases h
      simpa using hx
    · cases h

theorem members_succ {ms : List (String × Json)} (h : Json.members (fuel + 1) depth cs = some (ms, rest)) :
    ∀ m ∈ ms, HasShortIntegers m.2 := by
  unfold Json.members at h
  split at h
  · split at h
    · cases h
    split at h
    · split at h
      · cases h
      · next x _ hx =>
        have hx := short.value hx
        split at h
        · obtain ⟨⟨ns, _⟩, hns, h⟩ := Option.map_eq_some_iff.1 h
          cases h
          exact List.forall_mem_cons.2 ⟨hx, short.members hns⟩
        · cases h
          simpa using hx
        · cases h
    · cases h
  · cases h

end ReadsShort

theorem readsShort : ∀ fuel, ReadsShort fuel
  | 0 => ⟨by simp [value], by simp [items], by simp [members]⟩
  | fuel + 1 =>
    have short := readsShort fuel
    ⟨short.value_succ, short.items_succ, short.members_succ⟩

theorem hasShortIntegers_of_parse {text : String} {j : Json} (h : parse text = some j) :
    HasShortIntegers j := by
  unfold parse parseWithin at h
  split at h
  · next k rest hvalue =>
    split at h
    · cases h
      exact (readsShort _).value hvalue
    · cases h
  · cases h

end Json

end CatalogSchema
