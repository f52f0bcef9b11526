import CatalogSchema.Proofs.Operator.Widening
import Mathlib.Logic.Function.Iterate

/-!
# Casts as a closure

A set of variants is closed under casts when it has, with each variant, what casting one more of its
arguments gives (`Variant.IsClosed`). The extension of a collection is the least such set around it
(`isClosed_extend`, `mem_of_isClosed`), because a cast of the one argument leaves the other as it was. The
laws of a closure follow from that, for casts in cycles and from a type to itself too, and for variants that
were cast before (`extension_is_closure`).
-/

namespace CatalogSchema

namespace Variant

/-! ## Sets listed once -/

theorem nodup_eraseDups {α : Type} [BEq α] [LawfulBEq α] : ∀ xs : List α, xs.eraseDups.Nodup
  | [] => by simp
  | x :: xs => by
    rw [List.eraseDups_cons, List.nodup_cons]
    exact ⟨by simp [List.mem_eraseDups], nodup_eraseDups (xs.filter fun y => !y == x)⟩
termination_by xs => xs.length
decreasing_by exact Nat.lt_succ_of_le (List.length_filter_le _ _)

/-- Extensions with the same members list the same set. -/
theorem extend_perm_iff {casts casts' : List ImplicitCast} {vs ws : List Variant} :
    (extend casts vs).Perm (extend casts' ws) ↔ ∀ w, w ∈ extend casts vs ↔ w ∈ extend casts' ws :=
  List.perm_ext_iff_of_nodup (nodup_eraseDups _) (nodup_eraseDups _)

/-! ## The least closed set -/

/-- `S` has, with each variant, those that come of casting an argument that was not cast yet. -/
structure IsClosed (casts : List ImplicitCast) (S : Variant → Prop) : Prop where
  left : ∀ v, S v → v.leftCast = false → ∀ source, ⟨source, v.left⟩ ∈ casts → S (v.castLeft source)
  right : ∀ v, S v → v.rightCast = false → ∀ source, ⟨source, v.right⟩ ∈ casts → S (v.castRight source)

variable {casts casts' : List ImplicitCast} {vs ws : List Variant} {v : Variant}

theorem mem_leftSources {source : String} :
    source ∈ v.leftSources casts ↔ v.leftCast = false ∧ ⟨source, v.left⟩ ∈ casts := by
  unfold leftSources
  cases v.leftCast <;> simp [mem_sources]

theorem mem_rightSources {source : String} :
    source ∈ v.rightSources casts ↔ v.rightCast = false ∧ ⟨source, v.right⟩ ∈ casts := by
  unfold rightSources
  cases v.rightCast <;> simp [mem_sources]

theorem mem_extend_of_mem (casts : List ImplicitCast) (h : v ∈ vs) : v ∈ extend casts vs :=
  mem_extend.2 ⟨v, h, mem_widened.2 (.inl rfl)⟩

/-- One more cast of either argument stays within the extension. -/
theorem isClosed_extend (casts : List ImplicitCast) (vs : List Variant) :
    IsClosed casts (· ∈ extend casts vs) where
  left w hw hnot source hc := by
    obtain ⟨v, hv, hw⟩ := mem_extend.1 hw
    apply mem_extend.2
    refine ⟨v, hv, ?_⟩
    -- where the first argument of `w` is not cast, it is as in `v`, whatever became of the second
    rcases mem_widened.1 hw with rfl | ⟨s, -, rfl⟩ | ⟨t, ht, rfl⟩ | ⟨s, -, t, -, rfl⟩
    · have hs := mem_leftSources.2 ⟨hnot, hc⟩
      exact mem_widened.2 (.inr (.inl ⟨source, hs, rfl⟩))
    · cases hnot
    · have hs : source ∈ v.leftSources casts := mem_leftSources.2 ⟨hnot, hc⟩
      exact mem_widened.2 (.inr (.inr (.inr ⟨source, hs, t, ht, rfl⟩)))
    · cases hnot
  right w hw hnot source hc := by
    obtain ⟨v, hv, hw⟩ := mem_extend.1 hw
    apply mem_extend.2
    refine ⟨v, hv, ?_⟩
    rcases mem_widened.1 hw with rfl | ⟨s, hs, rfl⟩ | ⟨t, -, rfl⟩ | ⟨s, -, t, -, rfl⟩
    · have ht := mem_rightSources.2 ⟨hnot, hc⟩
      exact mem_widened.2 (.inr (.inr (.inl ⟨source, ht, rfl⟩)))
    · have ht : source ∈ v.rightSources casts := mem_rightSources.2 ⟨hnot, hc⟩
      exact mem_widened.2 (.inr (.inr (.inr ⟨s, hs, source, ht, rfl⟩)))
    · cases hnot
    · cases hnot

/-- Whatever is closed and has the variants has their extension. -/
theorem mem_of_isClosed {S : Variant → Prop} (hS : IsClosed casts S) (hvs : ∀ v ∈ vs, S v)
    {w : Variant} (hw : w ∈ extend casts vs) : S w := by
  obtain ⟨v, hv, hw⟩ := mem_extend.1 hw
  have hcast : ∀ s ∈ v.leftSources casts, S (v.castLeft s) := by
    intro s hs
    obtain ⟨hnot, hc⟩ := mem_leftSources.1 hs
    exact hS.left v (hvs v hv) hnot _ hc
  rcases mem_widened.1 hw with rfl | ⟨s, hs, rfl⟩ | ⟨t, ht, rfl⟩ | ⟨s, hs, t, ht, rfl⟩
  · exact hvs _ hv
  · exact hcast s hs
  · obtain ⟨hnot, hc⟩ := mem_rightSources.1 ht
    exact hS.right v (hvs v hv) hnot _ hc
  · obtain ⟨hnot, hc⟩ := mem_rightSources.1 ht
    exact hS.right (v.castLeft s) (hcast s hs) hnot _ hc

theorem IsClosed.mono {S : Variant → Prop} (hS : IsClosed casts' S) (h : ∀ c ∈ casts, c ∈ casts') :
    IsClosed casts S where
  left v hv hnot source hc := hS.left v hv hnot source (h _ hc)
  right v hv hnot source hc := hS.right v hv hnot source (h _ hc)

/-- More casts and more variants give no smaller extension. -/
theorem mem_extend_mono (hc : ∀ c ∈ casts, c ∈ casts') (hv : ∀ v ∈ vs, v ∈ ws) {w : Variant}
    (hw : w ∈ extend casts vs) : w ∈ extend casts' ws :=
  mem_of_isClosed ((isClosed_extend casts' ws).mono hc) (fun v h => mem_extend_of_mem casts' (hv v h)) hw

theorem mem_extend_append {w : Variant} :
    w ∈ extend casts (vs ++ ws) ↔ w ∈ extend casts vs ∨ w ∈ extend casts ws := by
  simp only [mem_extend, List.mem_append, or_and_right, exists_or]

/-- Extending once more adds nothing. -/
theorem mem_extend_extend {w : Variant} : w ∈ extend casts (extend casts vs) ↔ w ∈ extend casts vs :=
  ⟨mem_of_isClosed (isClosed_extend casts vs) fun _ => id, mem_extend_of_mem casts⟩

theorem iterate_extend_perm (casts : List ImplicitCast) (vs : List Variant) (n : Nat) :
    ((extend casts)^[n] (extend casts vs)).Perm (extend casts vs) := by
  induction n generalizing vs with
  | zero => exact .refl _
  | succ n ih =>
    rw [Function.iterate_succ_apply]
    exact (ih (extend casts vs)).trans (extend_perm_iff.2 fun _ => mem_extend_extend)

/-- The extension by casts is a closure: it has what it extends, distributes over unions, grows with the
casts, does not depend on how casts and variants are listed, and has nothing to add to itself, however often.
It is the least collection that is closed under the casts. -/
theorem extension_is_closure (casts : List ImplicitCast) (vs : List Variant) :
    (∀ v ∈ vs, v ∈ extend casts vs) ∧
    (∀ ws w, w ∈ extend casts (vs ++ ws) ↔ w ∈ extend casts vs ∨ w ∈ extend casts ws) ∧
    (∀ casts', (∀ c ∈ casts, c ∈ casts') → ∀ w ∈ extend casts vs, w ∈ extend casts' vs) ∧
    (∀ casts' ws, (∀ c, c ∈ casts' ↔ c ∈ casts) → (∀ w, w ∈ ws ↔ w ∈ vs) →
      (extend casts' ws).Perm (extend casts vs)) ∧
    (∀ n, ((extend casts)^[n] (extend casts vs)).Perm (extend casts vs)) ∧
    IsClosed casts (· ∈ extend casts vs) ∧
    ∀ S, IsClosed casts S → (∀ v ∈ vs, S v) → ∀ w ∈ extend casts vs, S w := by
  refine ⟨fun v => mem_extend_of_mem casts, fun ws w => mem_extend_append, ?_, ?_,
    iterate_extend_perm casts vs, isClosed_extend casts vs, ?_⟩
  · intro casts' hc w hw
    exact mem_extend_mono hc (fun _ => id) hw
  · intro casts' ws hc hv
    apply extend_perm_iff.2
    intro w
    exact ⟨mem_extend_mono (fun c => (hc c).1) fun v => (hv v).1,
      mem_extend_mono (fun c => (hc c).2) fun v => (hv v).2⟩
  · intro S hS hvs w hw
    exact mem_of_isClosed hS hvs hw

/-- Casts in a cycle and from a type to itself, over a definition and a variant that was cast before. -/
theorem cyclic_casts_extend_once :
    let casts : List ImplicitCast := [⟨"int2", "int4"⟩, ⟨"int4", "int2"⟩, ⟨"int4", "int4"⟩]
    let vs := [declared "=" "int4" "int2" true, (declared "<" "int4" "int4" true).castLeft "int2"]
    (extend casts vs).length = 9 ∧ ((extend casts)^[3] (extend casts vs)).Perm (extend casts vs) ∧
      (extend (casts ++ casts.reverse) (vs.reverse ++ vs)).Perm (extend casts vs) := by
  intro casts vs
  obtain ⟨-, -, -, horder, hagain, -⟩ := extension_is_closure casts vs
  refine ⟨by decide +kernel, hagain 3, horder _ _ ?_ ?_⟩
  · intro c
    rw [List.mem_append, List.mem_reverse, or_self_iff]
  · intro v
    rw [List.mem_append, List.mem_reverse, or_self_iff]

end Variant

end CatalogSchema
