import Lium.Incentive.OrderIndependence
import Lium.Incentive.SplitRoundTrip
import Mathlib.Algebra.BigOperators.Group.Finset.Piecewise

/-! # The pool of the idle spot nodes

What a model's fillers earn is shared by its idle spot nodes, in proportion to their own
rates and never above them.
-/

namespace Lium.RentalPrice

open Raising CellSums

/-! ## The multiplier of a pool -/

def poolMultiplier (earnings rateSum : ℚ) : ℚ :=
  if 0 < rateSum then min 1 (earnings / rateSum) else 1

section

variable {earnings rateSum larger : ℚ}

theorem poolMultiplier_le_one : poolMultiplier earnings rateSum ≤ 1 := by
  unfold poolMultiplier
  split
  · exact min_le_left ..
  · exact le_rfl

theorem mul_poolMultiplier (earned : 0 ≤ earnings) (nonneg : 0 ≤ rateSum) :
    rateSum * poolMultiplier earnings rateSum = min earnings rateSum := by
  unfold poolMultiplier
  split_ifs with positive
  · rw [mul_min_of_nonneg _ _ nonneg, mul_one, mul_div_cancel₀ _ positive.ne', min_comm]
  · rw [le_antisymm (not_lt.mp positive) nonneg, zero_mul, min_eq_right earned]

theorem poolMultiplier_anti (earned : 0 ≤ earnings) (le : rateSum ≤ larger) :
    poolMultiplier earnings larger ≤ poolMultiplier earnings rateSum := by
  by_cases positive : 0 < rateSum
  · rw [poolMultiplier, poolMultiplier, if_pos positive, if_pos (positive.trans_le le)]
    exact min_le_min_left _ (div_le_div_of_nonneg_left earned positive le)
  · rw [poolMultiplier.eq_def _ rateSum, if_neg positive]
    exact poolMultiplier_le_one

end

/-! ## One pass -/

/-- Distinct candidates with nonnegative rates, each with what its model's fillers earn. -/
structure SpotCandidates (heap : ResultRef → JobResult) (candidates : List (String × ResultRef))
    (earnings : String → ℚ≥0) : Prop where
  distinct : (candidates.map Prod.snd).Nodup
  nonneg : ∀ candidate ∈ candidates, 0 ≤ (heap candidate.2).effectiveRateValue
  earned : ∀ candidate ∈ candidates,
    (heap candidate.2).fillerRevenueUsdPerHour.getD 0 = earnings candidate.1

def modelPay (heap : ResultRef → JobResult) (candidates : List (String × ResultRef))
    (baseModel : String) : ℚ :=
  sumOver Prod.snd (fun candidate result => if candidate.1 = baseModel then
    result.gpuCount * result.effectiveRateValue else 0) candidates heap

namespace SpotCandidates

variable {heap : ResultRef → JobResult} {candidates : List (String × ResultRef)}
  {earnings : String → ℚ≥0} {candidate : String × ResultRef}

section

variable (spot : SpotCandidates heap candidates earnings)
include spot

theorem modelPay_nonneg (baseModel : String) :
    0 ≤ modelPay heap candidates baseModel := by
  apply List.sum_nonneg
  simp only [List.forall_mem_map]
  intro candidate member
  split
  · exact mul_nonneg (Nat.cast_nonneg _) (spot.nonneg candidate member)
  · exact le_rfl

theorem pool (member : candidate ∈ candidates) :
    (spotPoolByModel heap candidates).getD candidate.1 0 = earnings candidate.1 := by
  rw [spotPoolByModel_getD member, spot.earned candidate member]
  intro other listed same
  rw [spot.earned other listed, spot.earned candidate member, same]

theorem paid (member : candidate ∈ candidates) :
    spotPayWithinFillerEarnings heap candidates candidate.2 =
      scaleSpotPay (poolMultiplier (earnings candidate.1)
        (modelPay heap candidates candidate.1)) (heap candidate.2) := by
  rw [spotPayWithinFillerEarnings, updateEach_of_mem _ heap spot.distinct member,
    spotPoolMultiplierOf, spotRateSumByModel_getD, spot.pool member]
  rfl

theorem modelPay_paid (baseModel : String) :
    modelPay (spotPayWithinFillerEarnings heap candidates) candidates baseModel =
      min (earnings baseModel : ℚ) (modelPay heap candidates baseModel) := by
  have total := mul_poolMultiplier (NNRat.coe_nonneg (earnings baseModel))
    (spot.modelPay_nonneg baseModel)
  rw [← total]
  generalize multiplied : poolMultiplier (earnings baseModel) (modelPay heap candidates baseModel) =
    multiplier
  rw [modelPay, modelPay, sumOver, sumOver, ← List.sum_map_mul_right]
  apply congrArg List.sum
  apply List.map_congr_left
  intro candidate member
  rw [spot.paid member]
  split_ifs with same
  · subst same
    simp only [multiplied, scaleSpotPay, JobResult.effectiveRateValue, Option.getD_some]
    ring
  · rw [zero_mul]

end

theorem spotPay_eq_sum_models (heap : ResultRef → JobResult)
    (candidates : List (String × ResultRef)) :
    spotPay heap candidates =
      ∑ baseModel ∈ (candidates.map Prod.fst).toFinset, modelPay heap candidates baseModel := by
  have general : ∀ models : Finset String, (∀ candidate ∈ candidates, candidate.1 ∈ models) →
      spotPay heap candidates = ∑ baseModel ∈ models, modelPay heap candidates baseModel := by
    intro models
    induction candidates with
    | nil => simp [spotPay, modelPay, sumOver]
    | cons candidate rest induction =>
      intro listed
      rw [List.forall_mem_cons] at listed
      have others := induction listed.2
      simp only [spotPay, modelPay, sumOver, List.map_cons, List.sum_cons] at others ⊢
      rw [others, Finset.sum_add_distrib, Finset.sum_ite_eq, if_pos listed.1]
  apply general
  intro candidate member
  exact List.mem_toFinset.mpr (List.mem_map_of_mem member)

variable {earlier later : List (String × ResultRef)} {added : String × ResultRef}

theorem of_longer (spot : SpotCandidates heap (earlier ++ added :: later) earnings) :
    SpotCandidates heap (earlier ++ later) earnings := by
  have sublist : (earlier ++ later).Sublist (earlier ++ added :: later) :=
    (List.Sublist.refl earlier).append (List.sublist_cons_self ..)
  exact ⟨spot.distinct.sublist (sublist.map _),
    fun candidate member => spot.nonneg candidate (sublist.subset member),
    fun candidate member => spot.earned candidate (sublist.subset member)⟩

theorem modelPay_le_longer (spot : SpotCandidates heap (earlier ++ added :: later) earnings)
    (baseModel : String) :
    modelPay heap (earlier ++ later) baseModel ≤
      modelPay heap (earlier ++ added :: later) baseModel := by
  have nonneg : 0 ≤ (heap added.2).gpuCount * (heap added.2).effectiveRateValue :=
    mul_nonneg (Nat.cast_nonneg _) (spot.nonneg added (by simp))
  simp only [modelPay, sumOver, List.map_append, List.map_cons, List.sum_append, List.sum_cons]
  split_ifs <;> linarith

end SpotCandidates

theorem priceSpotNode_effectiveRate (env : Env) (baseModel : String) (node : JobResult) :
    let priced := priceSpotNode env baseModel node
    priced.effectiveRateValue =
      min (fillerRevenuePayFactor * (priced.fillerRevenuePerGpuHour.getD 0 : ℚ≥0))
        (spotSecureRate priced) := by
  intro priced
  rcases priceSpotNode_eq_withReasons env baseModel node with ⟨reasons, same⟩
  simp only [priced, same]
  rfl

/-- The idle spot nodes of a model are paid what its fillers earn, or their own rates if those
add up to less, each in proportion to its own rate; one more node dilutes the others. -/
theorem spot_pay_shares_filler_earnings (heap : ResultRef → JobResult)
    (candidates : List (String × ResultRef)) (earnings : String → ℚ≥0)
    (spot : SpotCandidates heap candidates earnings) :
    let rate := fun candidates (candidate : String × ResultRef) =>
      (spotPayWithinFillerEarnings heap candidates candidate.2).effectiveRateValue
    let pay := fun candidates => modelPay (spotPayWithinFillerEarnings heap candidates) candidates
    (∀ baseModel, pay candidates baseModel =
      min (earnings baseModel : ℚ) (modelPay heap candidates baseModel)) ∧
    (∀ candidate ∈ candidates, ∀ env node, heap candidate.2 = priceSpotNode env candidate.1 node →
      rate candidates candidate ≤
        min (fillerRevenuePayFactor * ((heap candidate.2).fillerRevenuePerGpuHour.getD 0 : ℚ≥0))
          (spotSecureRate (heap candidate.2))) ∧
    (∀ left ∈ candidates, ∀ right ∈ candidates, left.1 = right.1 →
      rate candidates left * (heap right.2).effectiveRateValue =
        rate candidates right * (heap left.2).effectiveRateValue) ∧
    spotPay (spotPayWithinFillerEarnings heap candidates) candidates =
      ∑ baseModel ∈ (candidates.map Prod.fst).toFinset, pay candidates baseModel ∧
    ∀ earlier added later, candidates = earlier ++ added :: later →
      (∀ other ∈ earlier ++ later, rate candidates other ≤ rate (earlier ++ later) other) ∧
        pay (earlier ++ later) added.1 ≤ pay candidates added.1 := by
  intro rate pay
  have rates : ∀ candidates, SpotCandidates heap candidates earnings → ∀ candidate ∈ candidates,
      rate candidates candidate = (heap candidate.2).effectiveRateValue *
        poolMultiplier (earnings candidate.1) (modelPay heap candidates candidate.1) := by
    intro candidates spot candidate member
    simp only [rate, spot.paid member]
    rfl
  refine ⟨spot.modelPay_paid, ?_, ?_, SpotCandidates.spotPay_eq_sum_models .., ?_⟩
  · intro candidate member env node priced
    have own := priceSpotNode_effectiveRate env candidate.1 node
    rw [← priced] at own
    rw [← own, rates candidates spot candidate member]
    exact mul_le_of_le_one_right (spot.nonneg candidate member) poolMultiplier_le_one
  · intro left leftMember right rightMember sameModel
    rw [rates candidates spot left leftMember, rates candidates spot right rightMember, sameModel]
    ring
  · rintro earlier added later rfl
    constructor
    · intro other member
      have listed : other ∈ earlier ++ added :: later := by
        simp only [List.mem_append, List.mem_cons] at member ⊢
        tauto
      rw [rates _ spot other listed, rates _ spot.of_longer other member]
      exact mul_le_mul_of_nonneg_left
        (poolMultiplier_anti (NNRat.coe_nonneg _) (spot.modelPay_le_longer _))
        (spot.nonneg other listed)
    · simp only [pay, spot.modelPay_paid, spot.of_longer.modelPay_paid]
      exact min_le_min_left _ (spot.modelPay_le_longer _)

namespace SpotPair

def heap : ResultRef → JobResult := fun _ =>
  { JobResult.fresh Sample.spot with effectiveRate := some 1 }

def candidates : List (String × ResultRef) := [("H100", .node 0), ("H100", .node 1)]

def twoModels : ResultRef → JobResult :=
  Function.update heap (.node 1) { heap (.node 1) with fillerRevenueUsdPerHour := some 8 }

end SpotPair

open SpotPair in
theorem two_models_scaled_apart :
    let candidates := [("H100", .node 0), ("B200", .node 1)]
    SpotCandidates twoModels candidates (fun model => if model = "H100" then 4 else 8) ∧
      (twoModels (.node 0)).effectiveRateValue = (twoModels (.node 1)).effectiveRateValue ∧
      let rate := fun ref =>
        (spotPayWithinFillerEarnings twoModels candidates ref).effectiveRateValue
      rate (.node 0) = 1 / 2 ∧ rate (.node 1) = 1 := by
  refine ⟨⟨by decide, ?_, ?_⟩, ?_, ?_, ?_⟩ <;> decide +kernel

open SpotPair in
theorem spotPair_shares_filler_earnings :
    SpotCandidates heap candidates (fun _ => 4) ∧
      modelPay (spotPayWithinFillerEarnings heap candidates) candidates "H100" =
        min 4 (modelPay heap candidates "H100") := by
  have spot : SpotCandidates heap candidates (fun _ => 4) :=
    ⟨by decide, fun _ _ => zero_le_one, fun _ _ => rfl⟩
  exact ⟨spot, (spot_pay_shares_filler_earnings heap candidates _ spot).1 "H100"⟩

end Lium.RentalPrice
