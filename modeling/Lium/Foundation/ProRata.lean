import Mathlib.Algebra.BigOperators.Ring.List
import Mathlib.Algebra.Order.BigOperators.Group.List
import Mathlib.Algebra.Order.Field.Basic
import Mathlib.Tactic.FieldSimp
import Mathlib.Tactic.Linarith
import Mathlib.Tactic.Ring

/-! # Pro-rata distribution

A share is divided among claimants in proportion to their claims. Nobody is paid when the
claims add up to nothing.
-/

namespace Lium

variable {F : Type} [Field F]

def proRata (share total claim : F) : F := share * claim / total

@[simp] theorem proRata_zero_claim (share total : F) : proRata share total 0 = 0 := by
  simp [proRata]

@[simp] theorem proRata_zero_total (share claim : F) : proRata share 0 claim = 0 := by
  simp [proRata]

theorem proRata_add (share total left right : F) :
    proRata share total (left + right) =
      proRata share total left + proRata share total right := by
  simp only [proRata, mul_add, add_div]

theorem sum_map_proRata {α : Type} (share total : F) (claim : α → F) (claimants : List α) :
    (claimants.map fun claimant => proRata share total (claim claimant)).sum =
      proRata share total (claimants.map claim).sum := by
  induction claimants with
  | nil => simp
  | cons claimant rest induction => simp [induction, proRata_add]

variable [LinearOrder F]

theorem ite_pos_div {total : F} (total_nonneg : 0 ≤ total) (amount : F) :
    (if 0 < total then amount / total else 0) = amount / total := by
  split_ifs with positive
  · rfl
  · rw [le_antisymm (not_lt.mp positive) total_nonneg, div_zero]

theorem ite_pos_eq_proRata {share total claim : F} (total_nonneg : 0 ≤ total) :
    (if 0 < total then share * claim / total else 0) = proRata share total claim :=
  ite_pos_div total_nonneg _

theorem proRata_total {share total : F} (total_nonneg : 0 ≤ total) :
    proRata share total total = if 0 < total then share else 0 := by
  split_ifs with positive
  · exact mul_div_cancel_right₀ share positive.ne'
  · rw [le_antisymm (not_lt.mp positive) total_nonneg, proRata_zero_total]

variable [IsStrictOrderedRing F]

theorem proRata_nonneg {share total claim : F} (share_nonneg : 0 ≤ share)
    (total_nonneg : 0 ≤ total) (claim_nonneg : 0 ≤ claim) : 0 ≤ proRata share total claim :=
  div_nonneg (mul_nonneg share_nonneg claim_nonneg) total_nonneg

/-- Two newcomers to the same share are paid alike when their claims are in the proportion of
the totals they join. -/
theorem proRata_joined_eq_iff {share left right leftClaim rightClaim : F}
    (left_nonneg : 0 ≤ left) (right_nonneg : 0 ≤ right) (leftClaim_pos : 0 < leftClaim)
    (rightClaim_pos : 0 < rightClaim) :
    proRata share (left + leftClaim) leftClaim = proRata share (right + rightClaim) rightClaim ↔
      share = 0 ∨ leftClaim * right = rightClaim * left := by
  have leftTotal : left + leftClaim ≠ 0 := by linarith
  have rightTotal : right + rightClaim ≠ 0 := by linarith
  rw [proRata, proRata, div_eq_div_iff leftTotal rightTotal, ← sub_eq_zero,
    ← sub_eq_zero (b := rightClaim * left), ← mul_eq_zero]
  constructor
  · intro equal
    linarith
  · intro equal
    linarith

/-! ## Weights over totals -/

section Weights

variable {α : Type} {items : List α} {weight total : α → F} {chosen : α → Prop}
  [DecidablePred chosen] {amount : F}

theorem sum_map_eq_zero_iff (nonneg : ∀ item ∈ items, 0 ≤ weight item) :
    (items.map weight).sum = 0 ↔ ∀ item ∈ items, weight item = 0 := by
  induction items with
  | nil => simp
  | cons item rest induction =>
    rw [List.forall_mem_cons] at nonneg ⊢
    have restNonneg : 0 ≤ (rest.map weight).sum := List.sum_nonneg (by simpa using nonneg.2)
    rw [List.map_cons, List.sum_cons, add_eq_zero_iff_of_nonneg nonneg.1 restNonneg,
      induction nonneg.2]

omit [LinearOrder F] [IsStrictOrderedRing F] in
theorem sum_div_split (shared : ∀ item ∈ items, chosen item → total item = amount) :
    (items.map fun item => weight item / total item).sum =
      (items.map fun item => if chosen item then 0 else weight item / total item).sum +
        (items.map fun item => if chosen item then weight item else 0).sum / amount := by
  induction items with
  | nil => simp
  | cons item rest induction =>
    rw [List.forall_mem_cons] at shared
    simp only [List.map_cons, List.sum_cons, induction shared.2]
    by_cases isChosen : chosen item
    · rw [if_pos isChosen, if_pos isChosen, shared.1 isChosen]
      ring
    · rw [if_neg isChosen, if_neg isChosen]
      ring

/-- A newcomer of weight `weight` adds `count` to the total of its kind. Its claim relates to
the others' alike before and after, measured against `seen`, only if nobody of its kind has a
weight and nobody else has one or the totals agree. -/
theorem newcomer_balance_iff {weight others peers actual seen count : F} (weight_pos : 0 < weight)
    (others_nonneg : 0 ≤ others) (peers_nonneg : 0 ≤ peers) (actual_nonneg : 0 ≤ actual)
    (sees : actual ≤ seen) (count_pos : 0 < count) (backed : peers ≠ 0 → actual ≠ 0) :
    weight / (seen + count) * (others + peers / (actual + count)) =
        weight / (actual + count) * (others + peers / actual) ↔
      peers = 0 ∧ (others = 0 ∨ seen = actual) := by
  have seenTotal : 0 < seen + count := by linarith
  have actualTotal : 0 < actual + count := by linarith
  by_cases noPeers : peers = 0
  · subst noPeers
    simp only [zero_div, add_zero, true_and]
    constructor
    · intro equal
      by_cases noOthers : others = 0
      · exact .inl noOthers
      · right
        have quotients := mul_right_cancel₀ noOthers equal
        rw [div_eq_div_iff seenTotal.ne' actualTotal.ne'] at quotients
        have totals := mul_left_cancel₀ weight_pos.ne' quotients
        linarith
    · rintro (noOthers | agree)
      · rw [noOthers, mul_zero, mul_zero]
      · rw [agree]
  · simp only [noPeers, false_and, iff_false]
    have actual_pos : 0 < actual := lt_of_le_of_ne actual_nonneg (Ne.symm (backed noPeers))
    have peers_pos : 0 < peers := lt_of_le_of_ne peers_nonneg (Ne.symm noPeers)
    have diluted : peers / (actual + count) < peers / actual :=
      div_lt_div_of_pos_left peers_pos actual_pos (by linarith)
    have claims : weight / (seen + count) ≤ weight / (actual + count) :=
      div_le_div_of_nonneg_left weight_pos.le actualTotal (by linarith)
    have claim_pos : 0 < weight / (actual + count) := div_pos weight_pos actualTotal
    apply ne_of_lt
    calc weight / (seen + count) * (others + peers / (actual + count))
        ≤ weight / (actual + count) * (others + peers / (actual + count)) := by
          apply mul_le_mul_of_nonneg_right claims
          exact add_nonneg others_nonneg (div_nonneg peers_nonneg actualTotal.le)
      _ < weight / (actual + count) * (others + peers / actual) := by
          apply mul_lt_mul_of_pos_left _ claim_pos
          linarith

end Weights

end Lium
