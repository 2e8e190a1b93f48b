import Mathlib.Algebra.Order.BigOperators.Group.List
import Mathlib.Algebra.Order.Ring.Nat
import Mathlib.Data.List.Nodup
import Mathlib.Tactic.Abel

/-! # Sums over the cells of a heap

A list of items, each naming one cell, and the sum of a weight over their contents.
-/

namespace Lium.CellSums

variable {α ρ γ M : Type} [AddCommMonoid M]

def sumOver (cell : α → ρ) (weight : α → γ → M) (items : List α) (heap : ρ → γ) : M :=
  (items.map fun item => weight item (heap (cell item))).sum

variable {cell : α → ρ} {items : List α}

theorem sumOver_congr {weight other : α → γ → M} {left right : ρ → γ} (equal : ∀ item ∈ items,
      weight item (left (cell item)) = other item (right (cell item))) :
    sumOver cell weight items left = sumOver cell other items right :=
  congrArg List.sum (List.map_congr_left equal)

theorem sum_filter_map (condition : α → Bool) (value : α → M) (items : List α) :
    ((items.filter condition).map value).sum =
      (items.map fun item => if condition item then value item else 0).sum := by
  induction items with
  | nil => rfl
  | cons item rest induction =>
    cases holds : condition item <;> simp [holds, induction]

variable [DecidableEq ρ]

theorem sumOver_update_of_not_mem (weight : α → γ → M) (items : List α) (heap : ρ → γ) {ref : ρ}
    (notMember : ref ∉ items.map cell) (content : γ) :
    sumOver cell weight items (Function.update heap ref content) =
      sumOver cell weight items heap := by
  apply sumOver_congr
  intro item member
  have different : cell item ≠ ref := fun equal =>
    notMember (equal ▸ List.mem_map_of_mem member)
  rw [Function.update_of_ne different]

theorem sumOver_update (weight : α → γ → M) (heap : ρ → γ) (nodup : (items.map cell).Nodup)
    {item : α} (member : item ∈ items) (content : γ) :
    sumOver cell weight items (Function.update heap (cell item) content) +
        weight item (heap (cell item)) =
      sumOver cell weight items heap + weight item content := by
  induction items with
  | nil => cases member
  | cons head rest induction =>
    rw [List.map_cons, List.nodup_cons] at nodup
    simp only [sumOver, List.map_cons, List.sum_cons] at induction ⊢
    rcases List.mem_cons.mp member with same | member
    · subst same
      have unchanged := sumOver_update_of_not_mem weight rest heap nodup.1 content
      simp only [sumOver] at unchanged
      rw [unchanged, Function.update_self]
      abel
    · have different : cell head ≠ cell item := fun equal =>
        nodup.1 (equal ▸ List.mem_map_of_mem member)
      rw [Function.update_of_ne different, add_assoc, induction nodup.2 member, add_assoc]

end Lium.CellSums
