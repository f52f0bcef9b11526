import CatalogSchema.FirstCome
import Mathlib.Data.List.Find

/-!
# Laws of settling

No two winners have one key (`nodup_winners_settle`). Who wins a key depends on the keys only: a change
of the members that keeps their keys changes the winners and nothing else (`winners_settle_map`), and
members whose keys are not those of others may be left out (`filter_winners_settle`).
-/

namespace CatalogSchema

namespace Bid

universe u v

variable {α β : Type u} {κ : Type v} [DecidableEq κ] {key : α → κ} {key' : β → κ} {f : α → β}

theorem nodup_held_winners_settle {held : List α} (xs : List α) (h : (held.map key).Nodup) :
    ((held ++ winners (settle key held xs)).map key).Nodup := by
  induction xs generalizing held with
  | nil => simpa [settle] using h
  | cons x xs ih =>
    cases hx : holder? key held x with
    | some holder =>
      rw [settle_held key hx, winners_lost]
      exact ih h
    | none =>
      have hfree : ∀ y ∈ held, key y ≠ key x := by simpa [holder?] using hx
      have hnext : ((held ++ [x]).map key).Nodup := by
        rw [List.map_append]
        refine List.nodup_append.2 ⟨h, by simp, fun a ha b hb => ?_⟩
        obtain ⟨y, hy, rfl⟩ := List.mem_map.1 ha
        rw [List.mem_singleton.1 hb]
        exact hfree y hy
      rw [settle_free key hx, winners_won, List.append_cons]
      exact ih hnext

/-- No two winners have one key. -/
theorem nodup_winners_settle (xs : List α) : ((winners (settle key [] xs)).map key).Nodup := by
  have hnone : (([] : List α).map key).Nodup := List.nodup_nil
  exact nodup_held_winners_settle xs hnone

/-- Where no two members have one key, all of them win. -/
theorem winners_settle_of_nodup {held xs : List α} (h : ((held ++ xs).map key).Nodup) :
    winners (settle key held xs) = xs := by
  induction xs generalizing held with
  | nil => rfl
  | cons x xs ih =>
    have hfree : holder? key held x = none := by
      rw [List.map_append, List.nodup_append] at h
      refine List.find?_eq_none.2 fun y hy => ?_
      simpa using h.2.2 (key y) (List.mem_map_of_mem hy) (key x) (by simp)
    rw [settle_free key hfree, winners_won, ih]
    rwa [List.append_cons] at h

theorem holder?_map (hf : ∀ x, key' (f x) = key x) (held : List α) (x : α) :
    holder? key' (held.map f) (f x) = (holder? key held x).map f := by
  rw [holder?, holder?, List.find?_map]
  simp only [Function.comp_def, hf]

theorem winners_settle_map (hf : ∀ x, key' (f x) = key x) (held xs : List α) :
    winners (settle key' (held.map f) (xs.map f)) = (winners (settle key held xs)).map f := by
  induction xs generalizing held with
  | nil => rfl
  | cons x xs ih =>
    rw [List.map_cons]
    cases hx : holder? key held x with
    | some h =>
      have hx' : holder? key' (held.map f) (f x) = some (f h) := by rw [holder?_map hf, hx]; rfl
      rw [settle_held key hx, settle_held key' hx', winners_lost, winners_lost, ih]
    | none =>
      have hx' : holder? key' (held.map f) (f x) = none := by rw [holder?_map hf, hx]; rfl
      have hh : held.map f ++ [f x] = (held ++ [x]).map f := by simp
      rw [settle_free key hx, settle_free key' hx', winners_won, winners_won, hh, ih, List.map_cons]

theorem holder?_filter {p : α → Bool} {held : List α} {x : α}
    (h : ∀ y ∈ held, key y = key x → p y) : holder? key (held.filter p) x = holder? key held x := by
  rw [holder?, holder?, List.find?_filter]
  refine List.find?_congr fun y hy => ?_
  by_cases hk : key y = key x
  · simp [hk, h y hy hk]
  · simp [hk]

/-- Members that share no key with the others may be left out before settling or after it. -/
theorem filter_winners_settle {p : α → Bool} {held xs : List α}
    (h : ∀ x ∈ xs, p x → ∀ y ∈ held ++ xs, key y = key x → p y) :
    (winners (settle key held xs)).filter p = winners (settle key (held.filter p) (xs.filter p)) := by
  induction xs generalizing held with
  | nil => rfl
  | cons x xs ih =>
    have hlost (y : α) (hy : y ∈ xs) (hp : p y) (z : α) (hz : z ∈ held ++ xs) (hk : key z = key y) :
        p z := by
      refine h y (List.mem_cons_of_mem x hy) hp z ?_ hk
      rcases List.mem_append.1 hz with hz | hz
      · exact List.mem_append_left _ hz
      · exact List.mem_append_right _ (List.mem_cons_of_mem x hz)
    have hwon (y : α) (hy : y ∈ xs) (hp : p y) (z : α) (hz : z ∈ held ++ [x] ++ xs)
        (hk : key z = key y) : p z := by
      refine h y (List.mem_cons_of_mem x hy) hp z ?_ hk
      simpa using hz
    cases hx : holder? key held x with
    | some holder =>
      rw [settle_held key hx, winners_lost, ih hlost]
      by_cases hp : p x
      · have hx' : holder? key (held.filter p) x = some holder := by
          rwa [holder?_filter fun y hy => h x List.mem_cons_self hp y (List.mem_append_left _ hy)]
        rw [List.filter_cons_of_pos hp, settle_held key hx', winners_lost]
      · rw [List.filter_cons_of_neg hp]
    | none =>
      rw [settle_free key hx, winners_won]
      by_cases hp : p x
      · have hx' : holder? key (held.filter p) x = none := by
          rwa [holder?_filter fun y hy => h x List.mem_cons_self hp y (List.mem_append_left _ hy)]
        have hheld : (held ++ [x]).filter p = held.filter p ++ [x] := by simp [hp]
        rw [List.filter_cons_of_pos hp, List.filter_cons_of_pos hp, settle_free key hx', winners_won,
          ih hwon, hheld]
      · have hheld : (held ++ [x]).filter p = held.filter p := by simp [hp]
        rw [List.filter_cons_of_neg hp, List.filter_cons_of_neg hp, ih hwon, hheld]

end Bid

end CatalogSchema
