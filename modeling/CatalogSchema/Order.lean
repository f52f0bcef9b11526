/-!
# Sorting by a comparison

`sortBy cmp` puts a list in ascending order and leaves members that compare equal in the order they
came in. `perm_sortBy` says that nothing is lost, `pairwise_sortBy` that the result ascends.
-/

namespace CatalogSchema

universe u v

variable {α : Type u} {β : Type v}

/-- Place `x` before the first member that is not smaller. -/
def insertBy (cmp : α → α → Ordering) (x : α) : List α → List α
  | [] => [x]
  | y :: ys => if (cmp x y).isLE then x :: y :: ys else y :: insertBy cmp x ys

/-- Stable ascending sort. -/
def sortBy (cmp : α → α → Ordering) (xs : List α) : List α := xs.foldr (insertBy cmp) []

/-- Stable ascending sort by a key. -/
def sortOn [Ord β] (key : α → β) (xs : List α) : List α := sortBy (compareOn key) xs

/-- Lexicographic comparison by two keys. -/
def byTwo {γ : Type v} [Ord β] [Ord γ] (first : α → β) (second : α → γ) : α → α → Ordering :=
  compareLex (compareOn first) (compareOn second)

theorem perm_insertBy (cmp : α → α → Ordering) (x : α) (ys : List α) :
    (insertBy cmp x ys).Perm (x :: ys) := by
  induction ys with
  | nil => exact .refl _
  | cons y ys ih =>
    by_cases h : (cmp x y).isLE
    · simp [insertBy, h]
    · simpa [insertBy, h] using (List.Perm.cons y ih).trans (List.Perm.swap x y ys)

theorem perm_sortBy (cmp : α → α → Ordering) (xs : List α) : (sortBy cmp xs).Perm xs := by
  induction xs with
  | nil => exact .refl _
  | cons x xs ih => exact (perm_insertBy cmp x _).trans (ih.cons x)

@[simp] theorem mem_sortBy {cmp : α → α → Ordering} {xs : List α} {x : α} :
    x ∈ sortBy cmp xs ↔ x ∈ xs := (perm_sortBy cmp xs).mem_iff

@[simp] theorem length_sortBy (cmp : α → α → Ordering) (xs : List α) :
    (sortBy cmp xs).length = xs.length := (perm_sortBy cmp xs).length_eq

theorem pairwise_insertBy {cmp : α → α → Ordering} [Std.TransCmp cmp] (x : α) {ys : List α}
    (h : ys.Pairwise fun a b => (cmp a b).isLE) :
    (insertBy cmp x ys).Pairwise fun a b => (cmp a b).isLE := by
  induction ys with
  | nil => simp [insertBy]
  | cons y ys ih =>
    obtain ⟨hy, hys⟩ := List.pairwise_cons.1 h
    by_cases hxy : (cmp x y).isLE
    · rw [insertBy, if_pos hxy]
      refine List.pairwise_cons.2 ⟨fun z hz => ?_, h⟩
      rcases List.mem_cons.1 hz with rfl | hz
      · exact hxy
      · exact Std.TransCmp.isLE_trans hxy (hy z hz)
    · rw [insertBy, if_neg hxy]
      refine List.pairwise_cons.2 ⟨fun z hz => ?_, ih hys⟩
      rcases List.mem_cons.1 ((perm_insertBy cmp x ys).mem_iff.1 hz) with rfl | hz
      · have : cmp z y = (cmp y z).swap := Std.OrientedCmp.eq_swap
        cases hc : cmp z y <;> simp_all
      · exact hy z hz

/-- The sorted list ascends. -/
theorem pairwise_sortBy (cmp : α → α → Ordering) [Std.TransCmp cmp] (xs : List α) :
    (sortBy cmp xs).Pairwise fun a b => (cmp a b).isLE := by
  induction xs with
  | nil => exact .nil
  | cons x xs ih => exact pairwise_insertBy x ih

end CatalogSchema
