import Lium.Incentive.RentalPrice
import Mathlib.Algebra.Order.BigOperators.Group.List

/-! # What the pre-pass collects

Each field of the pools, after a list of results was counted, as a sum or a sublist over
that list.
-/

namespace Lium

namespace Pools

variable (ref : ResultRef) (result : JobResult) (pools : Pools)

@[simp] theorem count_totalMiningScore :
    (pools.count ref result).totalMiningScore =
      pools.totalMiningScore + result.miningScore.getD 0 := by
  simp only [count]
  split_ifs <;> rfl

theorem not_spot_of_isCounted {result : JobResult} (counted : result.isCounted = true) :
    result.spotPayCandidate = false := by
  simp only [JobResult.isCounted, Bool.and_eq_true, Bool.not_eq_true'] at counted
  exact counted.1.1.1

theorem count_unrentedCountByBucket :
    (pools.count ref result).unrentedCountByBucket =
      if result.isCounted then pools.unrentedCountByBucket.add result.bucketKey result.gpuCount
      else pools.unrentedCountByBucket := by
  by_cases counted : result.isCounted = true
  · simp [count, counted, not_spot_of_isCounted counted]
  · simp only [count, if_neg counted]
    split_ifs <;> rfl

theorem count_weightedRateSumByBucket :
    (pools.count ref result).weightedRateSumByBucket =
      if result.isCounted then
        pools.weightedRateSumByBucket.add result.bucketKey result.weightedRate
      else pools.weightedRateSumByBucket := by
  by_cases counted : result.isCounted = true
  · simp [count, counted, not_spot_of_isCounted counted]
  · simp only [count, if_neg counted]
    split_ifs <;> rfl

theorem count_spotPayCandidates :
    (pools.count ref result).spotPayCandidates =
      if result.spotPayCandidate then pools.spotPayCandidates ++ [(result.baseModel, ref)]
      else pools.spotPayCandidates := by
  simp only [count]
  split_ifs <;> rfl

theorem count_secureFloorCandidates :
    (pools.count ref result).secureFloorCandidates =
      if result.isCounted && result.fillerRevenuePerGpuHour.isSome then
        pools.secureFloorCandidates ++ [(result.baseModel, ref)]
      else pools.secureFloorCandidates := by
  by_cases counted : result.isCounted = true
  · simp [count, counted, not_spot_of_isCounted counted]
  · simp only [count, Bool.eq_false_iff.mpr counted]
    split_ifs <;> simp_all

theorem count_splitFallbackCandidates :
    (pools.count ref result).splitFallbackCandidates =
      if result.isCounted && RentalPrice.isSplitFallbackCandidate result then
        pools.splitFallbackCandidates ++ [(result.baseModel, ref)]
      else pools.splitFallbackCandidates := by
  by_cases counted : result.isCounted = true
  · simp [count, counted, not_spot_of_isCounted counted]
  · simp only [count, Bool.eq_false_iff.mpr counted]
    split_ifs <;> simp_all

end Pools

namespace RentalPrice

def countAll (items : List (String × ResultRef)) (prepared : String × ResultRef → JobResult)
    (pools : Pools) : Pools :=
  items.foldl (fun pools item => pools.count item.2 (prepared item)) pools

variable (items : List (String × ResultRef)) (prepared : String × ResultRef → JobResult)
  (pools : Pools)

theorem countAll_totalMiningScore :
    (countAll items prepared pools).totalMiningScore =
      pools.totalMiningScore + (items.map fun item => (prepared item).miningScore.getD 0).sum := by
  exact measure_foldl (·.totalMiningScore) _
    (fun pools item => pools.count_totalMiningScore item.2 (prepared item)) items pools

theorem countAll_unrentedCount (key : BucketKey) :
    (countAll items prepared pools).unrentedCountByBucket.getD key 0 =
      pools.unrentedCountByBucket.getD key 0 +
        (items.map fun item =>
          if (prepared item).isCounted ∧ (prepared item).bucketKey = key then
            (prepared item).gpuCount
          else 0).sum := by
  refine measure_foldl (fun pools : Pools => pools.unrentedCountByBucket.getD key 0) _ ?_ items
    pools
  intro pools item
  rw [Pools.count_unrentedCountByBucket]
  by_cases counted : (prepared item).isCounted = true
  · simp [counted, PyDict.getD_add, eq_comm]
  · simp [counted]

theorem countAll_weightedRateSum (weight : BucketKey → ℚ →+ ℚ) :
    (countAll items prepared pools).weightedRateSumByBucket.sumWith
        (fun key value => weight key value) =
      pools.weightedRateSumByBucket.sumWith (fun key value => weight key value) +
        (items.map fun item =>
          if (prepared item).isCounted then
            weight (prepared item).bucketKey (prepared item).weightedRate
          else 0).sum := by
  refine measure_foldl (fun pools : Pools => pools.weightedRateSumByBucket.sumWith
    fun key value => weight key value) _ ?_ items pools
  intro pools item
  rw [Pools.count_weightedRateSumByBucket]
  by_cases counted : (prepared item).isCounted = true
  · simp [counted, PyDict.sumWith_add]
  · simp [counted]

def candidatesOf (condition : JobResult → Bool) : List (String × ResultRef) :=
  (items.filter fun item => condition (prepared item)).map fun item =>
    ((prepared item).baseModel, item.2)

theorem countAll_candidates (field : Pools → List (String × ResultRef))
    (condition : JobResult → Bool)
    (counts : ∀ ref result pools, field (Pools.count ref result pools) =
      if condition result then field pools ++ [(result.baseModel, ref)] else field pools) :
    field (countAll items prepared pools) =
      field pools ++ candidatesOf items prepared condition := by
  induction items generalizing pools with
  | nil => simp [countAll, candidatesOf]
  | cons item rest induction =>
    rw [countAll, List.foldl_cons, ← countAll, induction, counts]
    by_cases holds : condition (prepared item) = true
    · simp [candidatesOf, holds]
    · simp [candidatesOf, holds]

theorem countAll_spotPayCandidates :
    (countAll items prepared pools).spotPayCandidates =
      pools.spotPayCandidates ++ candidatesOf items prepared (·.spotPayCandidate) :=
  countAll_candidates items prepared pools (·.spotPayCandidates) _
    Pools.count_spotPayCandidates

theorem countAll_secureFloorCandidates :
    (countAll items prepared pools).secureFloorCandidates =
      pools.secureFloorCandidates ++ candidatesOf items prepared
        fun result => result.isCounted && result.fillerRevenuePerGpuHour.isSome :=
  countAll_candidates items prepared pools (·.secureFloorCandidates) _
    Pools.count_secureFloorCandidates

theorem countAll_splitFallbackCandidates :
    (countAll items prepared pools).splitFallbackCandidates =
      pools.splitFallbackCandidates ++ candidatesOf items prepared
        fun result => result.isCounted && isSplitFallbackCandidate result :=
  countAll_candidates items prepared pools (·.splitFallbackCandidates) _
    Pools.count_splitFallbackCandidates

end RentalPrice

end Lium
