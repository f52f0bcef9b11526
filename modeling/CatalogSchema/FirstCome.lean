/-!
# First come, first served

`settle key held xs` goes through `xs` and lets the first member with a key have it; a later one
loses, and the result names the holder it lost to. Keys of `held` are taken from the start. Main
statement: `find?_winners_settle`, by which the winner of a key is the first member that has it.
-/

namespace CatalogSchema

universe u v

/-- What became of a member: it won its key, or it lost to the holder of the key. -/
inductive Bid (α : Type u) where
  | won (x : α)
  | lost (x holder : α)
  deriving DecidableEq, Repr

namespace Bid

variable {α : Type u} {κ : Type v}

def winner? : Bid α → Option α
  | won x => some x
  | lost _ _ => none

def loser? : Bid α → Option (α × α)
  | won _ => none
  | lost x holder => some (x, holder)

/-- The member that holds the key of `x`. -/
def holder? [DecidableEq κ] (key : α → κ) (held : List α) (x : α) : Option α :=
  held.find? fun h => key h = key x

def settle [DecidableEq κ] (key : α → κ) : List α → List α → List (Bid α)
  | _, [] => []
  | held, x :: xs =>
    match holder? key held x with
    | some h => .lost x h :: settle key held xs
    | none => .won x :: settle key (held ++ [x]) xs

/-- The members that won their key, in order. -/
def winners (bids : List (Bid α)) : List α := bids.filterMap winner?

/-- The members that lost, each with the holder. -/
def losers (bids : List (Bid α)) : List (α × α) := bids.filterMap loser?

@[simp] theorem winners_nil : winners ([] : List (Bid α)) = [] := rfl

@[simp] theorem winners_won (x : α) (bids : List (Bid α)) :
    winners (won x :: bids) = x :: winners bids := rfl

@[simp] theorem winners_lost (x h : α) (bids : List (Bid α)) :
    winners (lost x h :: bids) = winners bids := rfl

section Settle

variable [DecidableEq κ] (key : α → κ)

theorem settle_held {held : List α} {x h : α} (hh : holder? key held x = some h) (xs : List α) :
    settle key held (x :: xs) = lost x h :: settle key held xs := by
  rw [settle, hh]

theorem settle_free {held : List α} {x : α} (hx : holder? key held x = none) (xs : List α) :
    settle key held (x :: xs) = won x :: settle key (held ++ [x]) xs := by
  rw [settle, hx]

theorem sublist_winners_settle (held xs : List α) :
    (winners (settle key held xs)).Sublist xs := by
  induction xs generalizing held with
  | nil => exact .slnil
  | cons x xs ih =>
    cases hx : holder? key held x with
    | some h => rw [settle_held key hx]; exact (ih held).cons x
    | none => rw [settle_free key hx]; exact (ih (held ++ [x])).cons_cons x

/-- A key goes to the first member that has it, unless it is taken from the start. -/
theorem find?_winners_settle (held xs : List α) (k : κ) :
    (winners (settle key held xs)).find? (fun x => key x = k) =
      if ∃ h ∈ held, key h = k then none else xs.find? fun x => key x = k := by
  induction xs generalizing held with
  | nil => simp [settle]
  | cons x xs ih =>
    cases hx : holder? key held x with
    | some h =>
      have hh := List.find?_some hx
      have hm := List.mem_of_find?_eq_some hx
      rw [settle_held key hx, winners_lost, ih]
      by_cases hk : key x = k
      · have : ∃ h ∈ held, key h = k := ⟨h, hm, by simpa [hk] using hh⟩
        simp [this]
      · simp [hk]
    | none =>
      have hn : ∀ h ∈ held, key h ≠ key x := by simpa [holder?] using hx
      rw [settle_free key hx, winners_won, List.find?_cons, ih]
      by_cases hk : key x = k
      · have : ¬ ∃ h ∈ held, key h = k := fun ⟨h, hm, he⟩ => hn h hm (he.trans hk.symm)
        simp [hk, this]
      · simp [hk, or_and_right, exists_or]

end Settle

end Bid

end CatalogSchema
