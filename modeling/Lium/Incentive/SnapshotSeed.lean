import Lium.Incentive.Conservation
import Lium.Incentive.Estimate

/-! # The snapshot as a summary

Seeding from the snapshot of a completed run restores the two bucket tables of the run
entry by entry. The text keys read back, and the run has written both tables under the same
keys, so nothing is lost.
-/

namespace Lium.RentalPrice

/-! ## Bucket keys as text -/

theorem bucketKeyStr_eq (key : BucketKey) :
    bucketKeyStr key = key.1 ++ String.ofList ['·'] ++ toString key.2 := rfl

theorem rsplitOnce_bucketKeyStr (key : BucketKey) :
    Text.rsplitOnce '·' (bucketKeyStr key) = some (key.1, toString key.2) := by
  rw [bucketKeyStr_eq]
  exact Text.rsplitOnce_append key.1 (Text.not_mem_toString (by decide) key.2)

theorem bucketKeyStr_injective : Function.Injective bucketKeyStr := by
  intro left right same
  have parts := congrArg (Text.rsplitOnce '·') same
  rw [rsplitOnce_bucketKeyStr, rsplitOnce_bucketKeyStr, Option.some.injEq, Prod.mk.injEq] at parts
  have bucket := congrArg Text.numeral parts.2
  rw [Text.numeral_toString, Text.numeral_toString, Option.some.injEq, Nat.cast_inj] at bucket
  exact Prod.ext parts.1 bucket

/-! ## Both tables have the same keys -/

def SameKeys (pools : Pools) : Prop :=
  pools.unrentedCountByBucket.keys = pools.weightedRateSumByBucket.keys

theorem SameKeys.count {pools : Pools} (same : SameKeys pools) (ref : ResultRef)
    (result : JobResult) : SameKeys (pools.count ref result) := by
  rw [SameKeys, Pools.count_unrentedCountByBucket, Pools.count_weightedRateSumByBucket]
  split_ifs
  · exact PyDict.keys_set_congr same _ _ _
  · exact same

theorem SameKeys.countAll {pools : Pools} (same : SameKeys pools)
    (items : List (String × ResultRef)) (prepared : String × ResultRef → JobResult) :
    SameKeys (countAll items prepared pools) := by
  induction items generalizing pools with
  | nil => exact same
  | cons item rest induction => exact induction (same.count item.2 (prepared item))

theorem SameKeys.move {pools : Pools} (same : SameKeys pools) (source target : BucketKey)
    (gpuCount : ℕ) (weightedRate : ℚ) :
    SameKeys (movePools pools source target gpuCount weightedRate) :=
  PyDict.keys_set_congr (PyDict.keys_set_congr same source _ _) target _ _

theorem SameKeys.reassign {state : IncentiveState} (same : SameKeys state.pools) (env : Env) :
    SameKeys (reassignSplitCandidates env state).pools := by
  rw [reassignSplitCandidates]
  generalize sortedByUuid state.heap state.pools.splitFallbackCandidates = candidates
  induction candidates generalizing state with
  | nil => exact same
  | cons candidate rest induction =>
    rw [List.foldl_cons]
    apply induction
    simp only [reassignSplitCandidate]
    split
    · exact same
    · exact same.move _ _ _ _

theorem finalState_sameKeys (env : Env) (fleet : Fleet) :
    SameKeys (finalState env fleet).pools := by
  rw [finalState_pools, settledState_pools]
  have prepared : SameKeys (preparedState env fleet).pools := by
    rw [preparedState_pools]
    have start : SameKeys {} := rfl
    exact start.countAll _ _
  exact prepared.reassign env

/-! ## Reading the snapshot back -/

theorem foldlM_seedBucket (runtime : PyRuntime)
    (buckets : List (BucketKey × GpuBucketRentalState)) (pools : Pools) :
    (buckets.map fun bucket => (bucketKeyStr bucket.1, bucket.2)).foldlM (seedBucket runtime)
        pools =
      .ok { pools with
        unrentedCountByBucket := buckets.foldl (fun counts bucket =>
          counts.set bucket.1 bucket.2.unrentedCount) pools.unrentedCountByBucket
        weightedRateSumByBucket := buckets.foldl (fun sums bucket =>
          sums.set bucket.1 bucket.2.weightedRateSum) pools.weightedRateSumByBucket } := by
  induction buckets generalizing pools with
  | nil => rfl
  | cons bucket rest induction =>
    have step : seedBucket runtime pools (bucketKeyStr bucket.1, bucket.2) =
        .ok { pools with
          unrentedCountByBucket :=
            pools.unrentedCountByBucket.set bucket.1 bucket.2.unrentedCount
          weightedRateSumByBucket :=
            pools.weightedRateSumByBucket.set bucket.1 bucket.2.weightedRateSum } := by
      simp only [seedBucket, bucketKeyOfStr, rsplitOnce_bucketKeyStr,
        runtime.intOfText_toString]
      rfl
    rw [List.map_cons, List.foldlM_cons, step]
    exact induction _

def snapshotBucket (env : Env) (state : IncentiveState) (entry : BucketKey × ℕ) :
    BucketKey × GpuBucketRentalState :=
  (entry.1,
    { unrentedCount := entry.2
      maxCap := env.config.cap entry.1.1 entry.1.2
      capMultiplier := state.shares.capMultiplierByBucket.getD entry.1 0
      weightedRateSum := state.pools.weightedRateSumByBucket.getD entry.1 0 })

theorem snapshotBuckets_items (env : Env) (state : IncentiveState) :
    (snapshotBuckets env state).items =
      (state.pools.unrentedCountByBucket.items.map (snapshotBucket env state)).map
        fun bucket => (bucketKeyStr bucket.1, bucket.2) := by
  rw [snapshotBuckets, PyDict.items_ofList]
  · rw [List.map_map]
    rfl
  · rw [List.map_map]
    have keys := state.pools.unrentedCountByBucket.keysNodup.map bucketKeyStr_injective
    rwa [List.map_map] at keys

def summarised (pools : Pools) : Pools where
  totalMiningScore := pools.totalMiningScore
  unrentedCountByBucket := pools.unrentedCountByBucket
  weightedRateSumByBucket := pools.weightedRateSumByBucket

theorem seedPools_getSnapshot (env : Env) {state : IncentiveState}
    (same : SameKeys state.pools) :
    seedPools env.runtime (getSnapshot env state) = .ok (summarised state.pools) := by
  have items := snapshotBuckets_items env state
  have keysNodup : ((state.pools.unrentedCountByBucket.items.map (snapshotBucket env state)).map
      Prod.fst).Nodup := by
    rw [List.map_map]
    exact state.pools.unrentedCountByBucket.keysNodup
  have counts := PyDict.items_foldl_set Prod.fst (fun bucket => bucket.2.unrentedCount)
    (state.pools.unrentedCountByBucket.items.map (snapshotBucket env state)) .empty keysNodup
  have sums := PyDict.items_foldl_set Prod.fst (fun bucket => bucket.2.weightedRateSum)
    (state.pools.unrentedCountByBucket.items.map (snapshotBucket env state)) .empty keysNodup
  have sameSums : (state.pools.unrentedCountByBucket.items.map fun entry =>
      (entry.1, state.pools.weightedRateSumByBucket.getD entry.1 0)) =
      state.pools.weightedRateSumByBucket.items := by
    rw [PyDict.items_eq_map_keys state.pools.weightedRateSumByBucket 0, ← same, PyDict.keys,
      List.map_map]
    rfl
  rw [seedPools]
  change (snapshotBuckets env state).items.foldlM _ _ = _
  rw [items, foldlM_seedBucket, summarised, Except.ok.injEq]
  congr 1
  · apply PyDict.ext_items
    rw [counts, List.map_map]
    exact List.map_id _
  · apply PyDict.ext_items
    rw [sums, List.map_map]
    exact sameSums

end Lium.RentalPrice
