import CatalogSchema.Order
import Mathlib.Data.List.Nodup

/-!
# Laws of the stable sort

What `sortBy` does to members that compare equal, seen from outside: it commutes with leaving members
out (`filter_sortBy`) and with any change of the members that keeps the comparison (`map_sortBy`). Where
no two members compare equal the order of the input does not matter (`sortBy_eq_of_perm`), and where
members that compare equal look alike it does not show (`map_sortBy_eq_of_perm`).
-/

namespace CatalogSchema

universe u v

variable {α : Type u} {β γ : Type v}

instance [Ord β] [Ord γ] [Std.TransOrd β] [Std.TransOrd γ] (f : α → β) (g : α → γ) :
    Std.TransCmp (byTwo f g) :=
  inferInstanceAs (Std.TransCmp (compareLex (compareOn f) (compareOn g)))

theorem byTwo_eq_eq [Ord β] [Ord γ] [Std.LawfulEqOrd β] [Std.LawfulEqOrd γ] {f : α → β} {g : α → γ}
    {x y : α} : byTwo f g x y = .eq ↔ f x = f y ∧ g x = g y := by
  rw [byTwo, compareLex_eq_eq]
  exact and_congr Std.LawfulEqOrd.compare_eq_iff_eq Std.LawfulEqOrd.compare_eq_iff_eq

theorem byThree_eq_eq {δ : Type v} [Ord β] [Ord γ] [Ord δ] [Std.LawfulEqOrd β] [Std.LawfulEqOrd γ]
    [Std.LawfulEqOrd δ] {f : α → β} {g : α → γ} {h : α → δ} {x y : α} :
    compareLex (compareOn f) (byTwo g h) x y = .eq ↔ f x = f y ∧ g x = g y ∧ h x = h y := by
  rw [compareLex_eq_eq, byTwo_eq_eq]
  exact and_congr_left' Std.LawfulEqOrd.compare_eq_iff_eq

/-! ## Members left out -/

section Filter

variable {cmp : α → α → Ordering}

/-- A member that is not greater than any of the list goes in front. -/
theorem insertBy_of_le {x : α} {ys : List α} (h : ∀ y ∈ ys, (cmp x y).isLE) :
    insertBy cmp x ys = x :: ys := by
  cases ys with
  | nil => rfl
  | cons y ys => rw [insertBy, if_pos (h y List.mem_cons_self)]

theorem filter_insertBy_of_pos [Std.TransCmp cmp] {p : α → Bool} {x : α} (hx : p x) {ys : List α}
    (hys : ys.Pairwise fun a b => (cmp a b).isLE) :
    (insertBy cmp x ys).filter p = insertBy cmp x (ys.filter p) := by
  induction ys with
  | nil => simp [insertBy, hx]
  | cons y ys ih =>
    obtain ⟨hy, hys⟩ := List.pairwise_cons.1 hys
    by_cases hxy : (cmp x y).isLE
    · have hle : ∀ z ∈ (y :: ys).filter p, (cmp x z).isLE := by
        intro z hz
        rcases List.mem_cons.1 (List.mem_filter.1 hz).1 with rfl | hz
        · exact hxy
        · exact Std.TransCmp.isLE_trans hxy (hy z hz)
      rw [insertBy, if_pos hxy, List.filter_cons_of_pos hx, insertBy_of_le hle]
    · rw [insertBy, if_neg hxy]
      by_cases hp : p y
      · rw [List.filter_cons_of_pos hp, List.filter_cons_of_pos hp, insertBy, if_neg hxy, ih hys]
      · rw [List.filter_cons_of_neg hp, List.filter_cons_of_neg hp, ih hys]

theorem filter_insertBy_of_neg {p : α → Bool} {x : α} (hx : ¬ p x) (ys : List α) :
    (insertBy cmp x ys).filter p = ys.filter p := by
  induction ys with
  | nil => simp [insertBy, hx]
  | cons y ys ih =>
    rw [insertBy]
    split
    · rw [List.filter_cons_of_neg hx]
    · by_cases hp : p y
      · rw [List.filter_cons_of_pos hp, List.filter_cons_of_pos hp, ih]
      · rw [List.filter_cons_of_neg hp, List.filter_cons_of_neg hp, ih]

/-- Sorting and then leaving members out is leaving them out and then sorting. -/
theorem filter_sortBy [Std.TransCmp cmp] (p : α → Bool) (xs : List α) :
    (sortBy cmp xs).filter p = sortBy cmp (xs.filter p) := by
  induction xs with
  | nil => rfl
  | cons x xs ih =>
    show (insertBy cmp x (sortBy cmp xs)).filter p = _
    by_cases hx : p x
    · rw [filter_insertBy_of_pos hx (pairwise_sortBy cmp xs), ih, List.filter_cons_of_pos hx]
      rfl
    · rw [filter_insertBy_of_neg hx, ih, List.filter_cons_of_neg hx]

end Filter

/-! ## Members that compare equal -/

section Stable

variable {cmp : α → α → Ordering}

/-- The first of the least members: those before it are greater, and those after it are not smaller. -/
def IsFirst (cmp : α → α → Ordering) (x : α) (xs : List α) : Prop :=
  ∃ before after, xs = before ++ x :: after ∧ (∀ y ∈ before, cmp x y = .lt) ∧
    ∀ y ∈ after, (cmp x y).isLE

theorem IsFirst.mem {x : α} {xs : List α} (h : IsFirst cmp x xs) : x ∈ xs := by
  obtain ⟨before, after, rfl, -, -⟩ := h
  exact List.mem_append_right _ List.mem_cons_self

theorem not_isFirst_nil (x : α) : ¬ IsFirst cmp x [] := fun h => List.not_mem_nil h.mem

theorem isFirst_cons {x y : α} {ys : List α} : IsFirst cmp x (y :: ys) ↔
    (x = y ∧ ∀ z ∈ ys, (cmp y z).isLE) ∨ (cmp x y = .lt ∧ IsFirst cmp x ys) := by
  constructor
  · rintro ⟨before, after, he, hbefore, hafter⟩
    cases before with
    | nil =>
      obtain ⟨rfl, rfl⟩ := List.cons.inj he
      exact .inl ⟨rfl, hafter⟩
    | cons b before =>
      obtain ⟨rfl, rfl⟩ := List.cons.inj he
      refine .inr ⟨hbefore y List.mem_cons_self, before, after, rfl, ?_, hafter⟩
      exact fun z hz => hbefore z (List.mem_cons_of_mem y hz)
  · rintro (⟨rfl, hle⟩ | ⟨hlt, before, after, rfl, hbefore, hafter⟩)
    · exact ⟨[], ys, rfl, fun _ hz => absurd hz List.not_mem_nil, hle⟩
    · exact ⟨y :: before, after, rfl, List.forall_mem_cons.2 ⟨hlt, hbefore⟩, hafter⟩

/-- The sorted list begins with the first of the least members. -/
theorem head?_sortBy_eq_some_iff [Std.TransCmp cmp] {x : α} {xs : List α} :
    (sortBy cmp xs).head? = some x ↔ IsFirst cmp x xs := by
  induction xs generalizing x with
  | nil => exact iff_of_false nofun (not_isFirst_nil x)
  | cons y ys ih =>
    show (insertBy cmp y (sortBy cmp ys)).head? = some x ↔ _
    have hsorted := pairwise_sortBy cmp ys
    have hmem (z : α) : z ∈ ys ↔ z ∈ sortBy cmp ys := mem_sortBy.symm
    rw [isFirst_cons, ← ih]
    simp only [hmem]
    generalize sortBy cmp ys = sorted at hsorted ⊢
    cases sorted with
    | nil =>
      constructor
      · intro h
        exact .inl ⟨(Option.some.inj h).symm, fun _ hz => absurd hz List.not_mem_nil⟩
      · rintro (⟨rfl, -⟩ | ⟨-, h⟩)
        · rfl
        · cases h
    | cons least rest =>
      obtain ⟨hleast, -⟩ := List.pairwise_cons.1 hsorted
      rw [insertBy, List.head?_cons, Option.some.injEq]
      by_cases hy : (cmp y least).isLE
      · -- `y` goes in front of the least of the others
        rw [if_pos hy, List.head?_cons, Option.some.injEq]
        constructor
        · rintro rfl
          refine .inl ⟨rfl, List.forall_mem_cons.2 ⟨hy, fun z hz => ?_⟩⟩
          exact Std.TransCmp.isLE_trans hy (hleast z hz)
        · rintro (⟨rfl, -⟩ | ⟨hlt, rfl⟩)
          · rfl
          · have hswap : cmp y least = (cmp least y).swap := Std.OrientedCmp.eq_swap
            rw [hswap, hlt] at hy
            cases hy
      · rw [if_neg hy, List.head?_cons, Option.some.injEq]
        constructor
        · rintro rfl
          have hgt : cmp y least = .gt := Ordering.isLE_eq_false.1 (Bool.eq_false_iff.2 hy)
          exact .inr ⟨Std.OrientedCmp.gt_iff_lt.1 hgt, rfl⟩
        · rintro (⟨rfl, hle⟩ | ⟨-, rfl⟩)
          · exact absurd (hle least List.mem_cons_self) hy
          · rfl

/-- The first member of the sorted list that passes a test is the first of the least that pass it. -/
theorem find?_sortBy_eq_some_iff [Std.TransCmp cmp] {p : α → Bool} {x : α} {xs : List α} :
    (sortBy cmp xs).find? p = some x ↔ IsFirst cmp x (xs.filter p) := by
  rw [← List.head?_filter, filter_sortBy, head?_sortBy_eq_some_iff]

theorem exists_isFirst (cmp : α → α → Ordering) [Std.TransCmp cmp] {xs : List α} (h : xs ≠ []) :
    ∃ x, IsFirst cmp x xs := by
  have hsorted : sortBy cmp xs ≠ [] := by
    rwa [← List.length_pos_iff, length_sortBy, List.length_pos_iff]
  exact ⟨_, head?_sortBy_eq_some_iff.1 (List.head?_eq_some_head hsorted)⟩

theorem IsFirst.isLE [Std.ReflCmp cmp] {x y : α} {xs : List α} (h : IsFirst cmp x xs) (hy : y ∈ xs) :
    (cmp x y).isLE := by
  obtain ⟨before, after, rfl, hbefore, hafter⟩ := h
  rcases List.mem_append.1 hy with hy | hy
  · rw [hbefore y hy]
    rfl
  · rcases List.mem_cons.1 hy with rfl | hy
    · have hself : cmp y y = .eq := Std.ReflCmp.compare_self
      rw [hself]
      rfl
    · exact hafter y hy

theorem IsFirst.unique [Std.TransCmp cmp] {x y : α} {xs : List α} (hx : IsFirst cmp x xs)
    (hy : IsFirst cmp y xs) : x = y := by
  rw [← head?_sortBy_eq_some_iff] at hx hy
  exact Option.some.inj (hx.symm.trans hy)

/-- The list `ys` is `xs` in ascending order of the keys, with members of one key left in their order. -/
structure IsStableSort [Ord β] [DecidableEq β] (key : α → β) (xs ys : List α) : Prop where
  perm : ys.Perm xs
  ascends : ys.Pairwise fun x y => (compare (key x) (key y)).isLE
  stable : ∀ k, ys.filter (key · = k) = xs.filter (key · = k)

theorem sortBy_eq_self_of_pairwise {xs : List α} (h : xs.Pairwise fun x y => (cmp x y).isLE) :
    sortBy cmp xs = xs := by
  induction xs with
  | nil => rfl
  | cons x xs ih =>
    obtain ⟨hx, hxs⟩ := List.pairwise_cons.1 h
    show insertBy cmp x (sortBy cmp xs) = x :: xs
    rw [ih hxs, insertBy_of_le hx]

theorem isStableSort_sortOn [Ord β] [Std.TransOrd β] [DecidableEq β] (key : α → β) (xs : List α) :
    IsStableSort key xs (sortOn key xs) where
  perm := perm_sortBy _ xs
  ascends := pairwise_sortBy (compareOn key) xs
  stable k := by
    unfold sortOn
    rw [filter_sortBy]
    refine sortBy_eq_self_of_pairwise (List.pairwise_of_forall_mem_list fun x hx y hy => ?_)
    have hxk := of_decide_eq_true (List.mem_filter.1 hx).2
    have hyk := of_decide_eq_true (List.mem_filter.1 hy).2
    rw [compareOn, hxk, hyk, Std.ReflOrd.compare_self]
    rfl

theorem isLE_of_mem_cons [Ord β] [Std.TransOrd β] {key : α → β} {x y : α} {xs : List α}
    (h : (x :: xs).Pairwise fun a b => (compare (key a) (key b)).isLE) (hy : y ∈ x :: xs) :
    (compare (key x) (key y)).isLE := by
  rcases List.mem_cons.1 hy with rfl | hy
  · exact Std.ReflOrd.isLE_rfl
  · exact (List.pairwise_cons.1 h).1 y hy

/-- Lists with the same members of each key have the same members. -/
theorem mem_iff_of_filter_key_eq [DecidableEq β] {key : α → β} {xs ys : List α}
    (h : ∀ k, xs.filter (key · = k) = ys.filter (key · = k)) (x : α) : x ∈ xs ↔ x ∈ ys := by
  have hx : x ∈ xs.filter (key · = key x) ↔ x ∈ ys.filter (key · = key x) := by rw [h]
  simpa [List.mem_filter] using hx

/-- A list that ascends by a key is known from its members of each key. -/
theorem eq_of_filter_key_eq [Ord β] [Std.TransOrd β] [Std.LawfulEqOrd β] [DecidableEq β] {key : α → β}
    {xs ys : List α} (hxs : xs.Pairwise fun a b => (compare (key a) (key b)).isLE)
    (hys : ys.Pairwise fun a b => (compare (key a) (key b)).isLE)
    (h : ∀ k, xs.filter (key · = k) = ys.filter (key · = k)) : xs = ys := by
  have hmem := mem_iff_of_filter_key_eq h
  induction xs generalizing ys with
  | nil =>
    apply Eq.symm
    rw [List.eq_nil_iff_forall_not_mem]
    exact fun y hy => List.not_mem_nil ((hmem y).2 hy)
  | cons x xs ih =>
    cases ys with
    | nil => exact absurd ((hmem x).1 List.mem_cons_self) List.not_mem_nil
    | cons y ys =>
      -- each head is a member of the other list, so neither has the greater key
      have hxy := isLE_of_mem_cons hxs ((hmem y).2 List.mem_cons_self)
      have hyx := isLE_of_mem_cons hys ((hmem x).1 List.mem_cons_self)
      have hkey : key y = key x :=
        (Std.LawfulEqOrd.eq_of_compare (Std.OrientedCmp.isLE_antisymm hxy hyx)).symm
      have hheads := h (key x)
      rw [List.filter_cons_of_pos (by simp), List.filter_cons_of_pos (by simp [hkey])] at hheads
      obtain ⟨rfl, hrest⟩ := List.cons.inj hheads
      have htails (k : β) : xs.filter (key · = k) = ys.filter (key · = k) := by
        by_cases hk : key x = k
        · rw [← hk, hrest]
        · have hboth := h k
          rwa [List.filter_cons_of_neg (by simpa using hk),
            List.filter_cons_of_neg (by simpa using hk)] at hboth
      rw [ih (List.pairwise_cons.1 hxs).2 (List.pairwise_cons.1 hys).2 htails
        (mem_iff_of_filter_key_eq htails)]

/-- There is one stable sort of a list. -/
theorem isStableSort_iff_eq_sortOn [Ord β] [Std.TransOrd β] [Std.LawfulEqOrd β] [DecidableEq β]
    {key : α → β} {xs ys : List α} : IsStableSort key xs ys ↔ ys = sortOn key xs := by
  constructor
  · intro h
    have hsort := isStableSort_sortOn key xs
    exact eq_of_filter_key_eq h.ascends hsort.ascends fun k => (h.stable k).trans (hsort.stable k).symm
  · rintro rfl
    exact isStableSort_sortOn key xs

end Stable

/-! ## Members changed -/

theorem map_insertBy {cmp : α → α → Ordering} {cmp' : β → β → Ordering} {f : α → β} {x : α}
    {ys : List α} (h : ∀ y ∈ ys, (cmp' (f x) (f y)).isLE = (cmp x y).isLE) :
    (insertBy cmp x ys).map f = insertBy cmp' (f x) (ys.map f) := by
  induction ys with
  | nil => rfl
  | cons y ys ih =>
    have hy := h y List.mem_cons_self
    rw [List.map_cons, insertBy, insertBy, hy]
    split
    · rfl
    · rw [List.map_cons, ih fun z hz => h z (List.mem_cons_of_mem _ hz)]

/-- Sorting commutes with a change of the members that keeps how they compare. -/
theorem map_sortBy {cmp : α → α → Ordering} (cmp' : β → β → Ordering) {f : α → β} {xs : List α}
    (h : ∀ x ∈ xs, ∀ y ∈ xs, (cmp' (f x) (f y)).isLE = (cmp x y).isLE) :
    (sortBy cmp xs).map f = sortBy cmp' (xs.map f) := by
  induction xs with
  | nil => rfl
  | cons x xs ih =>
    have hx : ∀ y ∈ sortBy cmp xs, (cmp' (f x) (f y)).isLE = (cmp x y).isLE := fun y hy =>
      h x List.mem_cons_self y (List.mem_cons_of_mem _ (mem_sortBy.1 hy))
    have hxs := ih fun a ha b hb => h a (List.mem_cons_of_mem _ ha) b (List.mem_cons_of_mem _ hb)
    show (insertBy cmp x (sortBy cmp xs)).map f = insertBy cmp' (f x) (sortBy cmp' (xs.map f))
    rw [map_insertBy hx, hxs]

/-- Two comparisons that agree on the members sort them alike. -/
theorem sortBy_congr {cmp cmp' : α → α → Ordering} {xs : List α}
    (h : ∀ x ∈ xs, ∀ y ∈ xs, (cmp' x y).isLE = (cmp x y).isLE) : sortBy cmp xs = sortBy cmp' xs := by
  simpa using map_sortBy cmp' (f := id) h

/-! ## The order of the input -/

/-- Where only equal members compare equal, the order of the input does not matter. -/
theorem sortBy_eq_of_perm {cmp : α → α → Ordering} [Std.TransCmp cmp] {xs ys : List α}
    (h : xs.Perm ys) (he : ∀ x ∈ xs, ∀ y ∈ xs, cmp x y = .eq → x = y) :
    sortBy cmp xs = sortBy cmp ys := by
  refine List.Perm.eq_of_pairwise ?_ (pairwise_sortBy cmp xs) (pairwise_sortBy cmp ys)
    ((perm_sortBy cmp xs).trans (h.trans (perm_sortBy cmp ys).symm))
  intro x y hx hy hxy hyx
  exact he x (mem_sortBy.1 hx) y (h.mem_iff.2 (mem_sortBy.1 hy))
    (Std.OrientedCmp.isLE_antisymm hxy hyx)

/-- Rows with distinct keys are sorted by them in one way. -/
theorem sortOn_eq_of_perm [Ord β] [Std.TransOrd β] [Std.LawfulEqOrd β] {key : α → β} {xs ys : List α}
    (h : xs.Perm ys) (hk : (xs.map key).Nodup) : sortOn key xs = sortOn key ys :=
  sortBy_eq_of_perm h fun _ hx _ hy he =>
    List.inj_on_of_nodup_map hk hx hy (Std.LawfulEqOrd.eq_of_compare he)

/-- Where two keys together are distinct, the second is distinct among the rows with one first key. -/
theorem nodup_map_filter [DecidableEq β] {first : α → β} {second : α → γ} {xs : List α}
    (h : (xs.map fun x => (first x, second x)).Nodup) (b : β) :
    ((xs.filter (first · = b)).map second).Nodup := by
  have hs : ((xs.filter (first · = b)).map fun x => (first x, second x)).Nodup :=
    (List.filter_sublist.map _).nodup h
  have he : (xs.filter (first · = b)).map (fun x => (first x, second x)) =
      ((xs.filter (first · = b)).map second).map (b, ·) := by
    rw [List.map_map]
    refine List.map_congr_left fun x hx => ?_
    rw [Function.comp_apply, of_decide_eq_true (List.mem_filter.1 hx).2]
  rw [he] at hs
  exact List.Nodup.of_map _ hs

/-- The rows with one first key are sorted by the second one in one way. -/
theorem sortOn_filter_eq_of_perm [DecidableEq β] [Ord γ] [Std.TransOrd γ] [Std.LawfulEqOrd γ]
    {first : α → β} {second : α → γ} {xs ys : List α} (h : xs.Perm ys)
    (hk : (xs.map fun x => (first x, second x)).Nodup) (b : β) :
    sortOn second (xs.filter (first · = b)) = sortOn second (ys.filter (first · = b)) :=
  sortOn_eq_of_perm (h.filter _) (nodup_map_filter hk b)

/-- Where members that compare equal have one image, the images do not depend on the order of the
input. -/
theorem map_sortBy_eq_of_perm {cmp : α → α → Ordering} (cmp' : β → β → Ordering) [Std.TransCmp cmp']
    {f : α → β} (hc : ∀ x y, cmp' (f x) (f y) = cmp x y) (he : ∀ a b, cmp' a b = .eq → a = b)
    {xs ys : List α} (h : (xs.map f).Perm (ys.map f)) :
    (sortBy cmp xs).map f = (sortBy cmp ys).map f := by
  rw [map_sortBy cmp' fun x _ y _ => congrArg Ordering.isLE (hc x y),
    map_sortBy cmp' fun x _ y _ => congrArg Ordering.isLE (hc x y)]
  exact sortBy_eq_of_perm h fun a _ b _ => he a b

end CatalogSchema
