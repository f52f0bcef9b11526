import CatalogSchema.Proofs.Operator.Preferred
import Mathlib.Order.Defs.Unbundled

/-!
# Ranks order the variants

Being preferred is irreflexive, transitive, and total up to equal ranks. For one operator and first argument
type the ranks of what casts between scalar types reach are distinct, so there it is a strict total order. The
variant that is kept is the least one, in whatever order and however often the variants are offered
(`ranking_is_strict_total_order`).
-/

namespace CatalogSchema

namespace Variant

/-- Where ranks tell variants apart, they order those with one key. -/
theorem RankedApart.isStrictTotalOrder {vs : List Variant} (h : RankedApart vs) (k : String × String) :
    IsStrictTotalOrder {v : Variant // v ∈ vs ∧ v.key = k} fun v w => v.1.isPreferredTo w.1 where
  irrefl v hv := by
    rw [isPreferredTo_irrefl] at hv
    cases hv
  trans _ _ _ := isPreferredTo_trans
  trichotomous v w hvw hwv := by
    obtain ⟨hv, hvk⟩ := v.2
    obtain ⟨hw, hwk⟩ := w.2
    apply Subtype.ext
    apply h v.1 hv w.1 hw (hvk.trans hwk.symm)
    by_contra hne
    rcases isPreferredTo_total hne with hlt | hlt
    · exact hvw hlt
    · exact hwv hlt

theorem mem_keys_select {vs : List Variant} {k : String × String} :
    k ∈ (select vs).keys ↔ ∃ v ∈ vs, v.key = k := by
  rw [← not_iff_not, ← OrderedMap.find?_eq_none_iff, find?_select_eq_none]
  simp

/-- On the variants that resolved casts reach from definitions, rank and key determine the variant, so that
preference is a strict total order for each key. Every listing of these variants selects the same: for each
key that any of them has, the one that is preferred to all others. -/
theorem ranking_is_strict_total_order (rows : List CastRow) (types : Classification)
    (excluded : List (String × String)) {ds : List Variant} (hd : ∀ d ∈ ds, d.IsDeclared) :
    let vs := extend (ImplicitCast.ofRows rows types excluded) ds
    (∀ v ∈ vs, ∀ w ∈ vs, v.key = w.key → v.rank = w.rank → v = w) ∧
    (∀ k, IsStrictTotalOrder {v : Variant // v ∈ vs ∧ v.key = k} fun v w => v.1.isPreferredTo w.1) ∧
    ∀ ws, (∀ w, w ∈ ws ↔ w ∈ vs) →
      (select ws).entries.Perm (select vs).entries ∧
      (∀ k, k ∈ (select ws).keys ↔ ∃ v ∈ vs, v.key = k) ∧
      ∀ k v, (select ws).find? k = some v ↔
        v ∈ vs ∧ v.key = k ∧ ∀ w ∈ vs, w.key = k → w ≠ v → v.isPreferredTo w := by
  intro vs
  have hc : ∀ c ∈ ImplicitCast.ofRows rows types excluded, c.source ≠ c.target :=
    fun c => ImplicitCast.source_ne_target
  have hvs : RankedApart vs := rankedApart_of_grown hc fun v => (mem_extend_definitions hd).1
  refine ⟨hvs, hvs.isStrictTotalOrder, fun ws hws => ?_⟩
  have hfind : ∀ k, (select vs).find? k = (select ws).find? k :=
    hvs.find?_select_congr fun v => (hws v).symm
  refine ⟨OrderedMap.entries_perm_of_find? fun k => (hfind k).symm, fun k => ?_, fun k v => ?_⟩
  · simp only [mem_keys_select, hws]
  · rw [← hfind, hvs.find?_select_eq_some_iff]

/-- Two operators and a function of one name, extended by casts and listed backwards and then again: for `int4`
the function is kept, which is defined on that type alone. -/
theorem listed_twice_selects_once :
    let types : Classification :=
      .ofRows [⟨23, "int4", 11, "b", "N", 0⟩, ⟨25, "text", 11, "b", "S", 0⟩, ⟨1043, "varchar", 11, "b", "S", 0⟩] []
    let casts := ImplicitCast.ofRows [⟨1043, 25, "i"⟩, ⟨23, 25, "i"⟩, ⟨25, 25, "i"⟩] types []
    let ds := [declared "=" "text" "text" true, declared "=" "int4" "text" true, declared "=" "int4" "int4" false]
    let ws := (extend casts ds).reverse ++ extend casts ds
    (∀ d ∈ ds, d.IsDeclared) ∧ (∀ w, w ∈ ws ↔ w ∈ extend casts ds) ∧
      (extend casts ds).length = 13 ∧
      (select ws).entries.Perm (select (extend casts ds)).entries ∧
      (select ws).find? ("=", "int4") = some (declared "=" "int4" "int4" false) := by
  intro types casts ds ws
  have hd : ∀ d ∈ ds, d.IsDeclared := by decide
  have hws : ∀ w, w ∈ ws ↔ w ∈ extend casts ds := by
    intro w
    rw [List.mem_append, List.mem_reverse, or_self_iff]
  obtain ⟨-, -, hlisted⟩ := ranking_is_strict_total_order
    [⟨1043, 25, "i"⟩, ⟨23, 25, "i"⟩, ⟨25, 25, "i"⟩] types [] hd
  obtain ⟨hperm, -, hleast⟩ := hlisted ws hws
  refine ⟨hd, hws, by decide +kernel, hperm, (hleast _ _).2 ?_⟩
  decide +kernel

end Variant

end CatalogSchema
