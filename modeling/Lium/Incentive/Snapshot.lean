import Mathlib.Algebra.Order.BigOperators.Group.List
import Lium.Incentive.RentalPrice

/-! # The epoch snapshot

`get_snapshot` summarises a scored cycle for the estimates: GPU totals per model, the
mining score, and the state of every bucket under a text key.
-/

namespace Lium

def countGpusByModel (counts : JobResult → Bool) (results : List JobResult) : PyDict String ℕ :=
  results.foldl (fun totals result =>
    if counts result then totals.add (result.gpuModel.getD "") result.gpuCount else totals) .empty

theorem countGpusByModel_getD (counts : JobResult → Bool) (results : List JobResult)
    (gpuModel : String) :
    (countGpusByModel counts results).getD gpuModel 0 =
      (results.map fun result => if counts result ∧ result.gpuModel.getD "" = gpuModel then
        result.gpuCount else 0).sum := by
  refine (measure_foldl (fun totals : PyDict String ℕ => totals.getD gpuModel 0) _ ?_ results
    .empty).trans (by rw [PyDict.getD_empty, zero_add])
  intro totals result
  by_cases counted : counts result = true
  · rw [if_pos counted, PyDict.getD_add]
    simp [counted, eq_comm]
  · simp [counted]

section Further

variable {counts further : JobResult → Bool} {results : List JobResult}
  (within : ∀ result ∈ results, counts result = true → further result = true)

include within

theorem countGpusByModel_termwise (gpuModel : String) :
    ∀ result ∈ results,
      (if counts result ∧ result.gpuModel.getD "" = gpuModel then result.gpuCount else 0) ≤
        if further result ∧ result.gpuModel.getD "" = gpuModel then result.gpuCount else 0 := by
  intro result member
  by_cases counted : counts result = true
  · simp [counted, within result member counted]
  · simp [counted]

theorem countGpusByModel_le (gpuModel : String) :
    (countGpusByModel counts results).getD gpuModel 0 ≤
      (countGpusByModel further results).getD gpuModel 0 := by
  rw [countGpusByModel_getD, countGpusByModel_getD]
  exact List.sum_le_sum (countGpusByModel_termwise within gpuModel)

theorem countGpusByModel_getD_eq_iff (gpuModel : String) :
    (countGpusByModel further results).getD gpuModel 0 =
        (countGpusByModel counts results).getD gpuModel 0 ↔
      ∀ result ∈ results, result.gpuModel.getD "" = gpuModel → further result = true →
        counts result = false → result.gpuCount = 0 := by
  constructor
  · intro sums result member isModel counted uncounted
    by_contra hasGpus
    rw [countGpusByModel_getD, countGpusByModel_getD] at sums
    have less := List.sum_lt_sum _ _ (countGpusByModel_termwise within gpuModel)
      ⟨result, member, by simp [counted, uncounted, isModel]; omega⟩
    omega
  · intro zero
    rw [countGpusByModel_getD, countGpusByModel_getD]
    apply congrArg List.sum
    apply List.map_congr_left
    intro result member
    by_cases counted : counts result = true
    · simp [counted, within result member counted]
    · by_cases extra : further result = true ∧ result.gpuModel.getD "" = gpuModel
      · simp [counted, extra, zero result member extra.2 extra.1 (by simpa using counted)]
      · simp [counted, extra]

theorem countGpusByModel_eq_iff :
    (∀ gpuModel, (countGpusByModel further results).getD gpuModel 0 =
        (countGpusByModel counts results).getD gpuModel 0) ↔
      ∀ result ∈ results, further result = true → counts result = false →
        result.gpuCount = 0 := by
  simp only [countGpusByModel_getD_eq_iff within]
  constructor
  · intro zero result member
    exact zero _ result member rfl
  · intro zero gpuModel result member _
    exact zero result member

end Further

namespace RentalPrice

def bucketKeyStr (key : BucketKey) : String := key.1 ++ "·" ++ toString key.2

def countsInSnapshot (env : Env) (result : JobResult) : Bool :=
  result.isSuccessful && !(result.isSpot && !env.earnsSpotRentalIncentive result) &&
    !env.isMissingDiscordAfterCutoff result

def snapshotBuckets (env : Env) (state : IncentiveState) :
    PyDict String GpuBucketRentalState :=
  .ofList (state.pools.unrentedCountByBucket.items.map fun entry =>
    (bucketKeyStr entry.1,
      { unrentedCount := entry.2
        maxCap := env.config.cap entry.1.1 entry.1.2
        capMultiplier := state.shares.capMultiplierByBucket.getD entry.1 0
        weightedRateSum := state.pools.weightedRateSumByBucket.getD entry.1 0 }))

def getSnapshot (env : Env) (state : IncentiveState) : RentalPriceSnapshot :=
  let totalGpuModelCountMap :=
    countGpusByModel (countsInSnapshot env) (state.scoringOrder.map fun item => state.heap item.2)
  { epochSubnetEmission := state.shares.epochSubnetEmission
    rentalShare := state.shares.rentalShare
    burnShare := state.shares.burnShare
    mining :=
      { totalGpuCount := totalGpuModelCountMap.values.sum
        totalMiningScore := state.pools.totalMiningScore
        totalGpuModelCountMap := totalGpuModelCountMap }
    rental :=
      { totalRentalCost := state.shares.totalRentalCost
        byBucket := snapshotBuckets env state
        unbucketedRentalCost := state.shares.unbucketedRentalCost } }

end RentalPrice

end Lium
