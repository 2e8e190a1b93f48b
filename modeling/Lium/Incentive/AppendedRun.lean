import Lium.Incentive.Denominators
import Lium.Incentive.FleetAppend

/-! # A run with one more result

The run over a fleet with a whole node appended, against the run over the fleet alone, which may use
other denominators. The bucket tables are those of the first run with the new node counted in.
-/

namespace Lium.RentalPrice

open Raising Scoring

variable {fleet : Fleet} {node : ValidatedNode} {env : Env}

/-! ## Bucket tables as summaries -/

structure SameBuckets (left right : Pools) : Prop where
  counts : ∀ key,
    left.unrentedCountByBucket.getD key 0 = right.unrentedCountByBucket.getD key 0
  rates : ∀ weight : BucketKey → ℚ →+ ℚ,
    left.weightedRateSumByBucket.sumWith (fun key value => weight key value) =
      right.weightedRateSumByBucket.sumWith (fun key value => weight key value)

theorem SameBuckets.trans {first second third : Pools} (left : SameBuckets first second)
    (right : SameBuckets second third) : SameBuckets first third where
  counts := fun key => (left.counts key).trans (right.counts key)
  rates := fun weight => (left.rates weight).trans (right.rates weight)

theorem count_getD (ref : ResultRef) (result : JobResult) (pools : Pools) (key : BucketKey) :
    (pools.count ref result).unrentedCountByBucket.getD key 0 =
      pools.unrentedCountByBucket.getD key 0 + gpusIn key result := by
  rw [Pools.count_unrentedCountByBucket]
  by_cases counted : result.isCounted = true
  · simp [counted, PyDict.getD_add, gpusIn, eq_comm]
  · simp [counted, gpusIn]

theorem count_sumWith (ref : ResultRef) (result : JobResult) (pools : Pools)
    (weight : BucketKey → ℚ →+ ℚ) :
    (pools.count ref result).weightedRateSumByBucket.sumWith (fun key value => weight key value) =
      pools.weightedRateSumByBucket.sumWith (fun key value => weight key value) +
        rateUnder weight result := by
  rw [Pools.count_weightedRateSumByBucket]
  by_cases counted : result.isCounted = true
  · simp [counted, PyDict.sumWith_add, rateUnder]
  · simp [counted, rateUnder]

variable {left right : Pools}

theorem SameBuckets.count (same : SameBuckets left right) (leftRef rightRef : ResultRef)
    (result : JobResult) :
    SameBuckets (left.count leftRef result) (right.count rightRef result) where
  counts := fun key => by rw [count_getD, count_getD, same.counts]
  rates := fun weight => by rw [count_sumWith, count_sumWith, same.rates]

theorem SameBuckets.multiplier_eq (same : SameBuckets left right) (config : IncentiveConfig)
    (key : BucketKey) :
    (capMultipliers config left.unrentedCountByBucket .empty).getD key 0 =
      (capMultipliers config right.unrentedCountByBucket .empty).getD key 0 := by
  rw [capMultipliers_getD, capMultipliers_getD, same.counts]

theorem SameBuckets.cost_eq (same : SameBuckets left right) (config : IncentiveConfig) :
    bucketRentalCost left.weightedRateSumByBucket
        (capMultipliers config left.unrentedCountByBucket .empty) =
      bucketRentalCost right.weightedRateSumByBucket
        (capMultipliers config right.unrentedCountByBucket .empty) := by
  have weighed := same.rates fun key => AddMonoidHom.mulLeft
    ((capMultipliers config right.unrentedCountByBucket .empty).getD key 0)
  simp only [bucketRentalCost, same.multiplier_eq config]
  exact weighed

theorem countAll_gpusIn (items : List (String × ResultRef))
    (prepared : String × ResultRef → JobResult) (key : BucketKey) :
    (countAll items prepared {}).unrentedCountByBucket.getD key 0 =
      (items.map fun item => gpusIn key (prepared item)).sum := by
  rw [countAll_unrentedCount, PyDict.getD_empty, Nat.zero_add]
  rfl

theorem countAll_rateUnder (items : List (String × ResultRef))
    (prepared : String × ResultRef → JobResult) (weight : BucketKey → ℚ →+ ℚ) :
    (countAll items prepared {}).weightedRateSumByBucket.sumWith
        (fun key value => weight key value) =
      (items.map fun item => rateUnder weight (prepared item)).sum := by
  rw [countAll_weightedRateSum, PyDict.sumWith_empty, zero_add]
  rfl

/-! ## The two runs -/

theorem Priced.not_counted {result : JobResult} (priced : Priced env result)
    (rented : result.isRented = true) : result.isCounted = false := by
  cases eligible : result.eligibleForRentalShare with
  | false => simp [JobResult.isCounted, eligible]
  | true =>
    have idle := (priced.eligible eligible).1
    rw [rented] at idle
    cases idle

section Appended

variable (hotkey : String) (denominators : PyDict String ℕ) {item : String × ResultRef}

theorem appended_preparation (member : item ∈ fleet.scored)
    (idle : (fleet.portion item.2).isRented = false) :
    preparation (env.withDenominators denominators) (fleet.append hotkey node) item =
      preparation env fleet item := by
  rw [preparation, preparation, fleet.append_portion hotkey node (fleet.id_mem_ids member)]
  exact prepareJobResult_withDenominators env denominators
    (portion_unscored env fleet item.1 item.2).unpaid idle

theorem appended_prepared (member : item ∈ fleet.scored)
    (idle : (fleet.portion item.2).isRented = false) :
    prepared (env.withDenominators denominators) (fleet.append hotkey node) item =
      prepared env fleet item := by
  rw [prepared, prepared, appended_preparation hotkey denominators member idle]

section Whole

variable (whole : freeGpuCountOfPartiallyRentedSplit node = none)

include whole

theorem mem_appended_scored :
    item ∈ (fleet.append hotkey node).scored ↔
      item = (hotkey, .node fleet.freshId) ∨ item ∈ fleet.scored := by
  rw [(fleet.append_scored_perm hotkey whole).mem_iff, List.mem_cons]

theorem Completes.append (completes : Completes env fleet)
    (readable : isReadable env (markHotkeyExcluded env hotkey (.fresh node)) = true) :
    Completes env (fleet.append hotkey node) := by
  rw [completes_iff] at completes ⊢
  intro item member
  rcases (mem_appended_scored hotkey whole).mp member with rfl | member
  · rw [fleet.append_portion_freshId hotkey whole]
    exact readable
  · rw [fleet.append_portion hotkey node (fleet.id_mem_ids member)]
    exact completes item member

theorem appended_sum {M : Type} [AddCommMonoid M] (completes : Completes env fleet)
    (later : Completes (env.withDenominators denominators) (fleet.append hotkey node))
    {term : JobResult → M} (uncounted : ∀ result, result.isCounted = false → term result = 0) :
    ((fleet.append hotkey node).scored.map fun item =>
        term (prepared (env.withDenominators denominators) (fleet.append hotkey node) item)).sum =
      (fleet.scored.map fun item => term (prepared env fleet item)).sum +
        term (prepared (env.withDenominators denominators) (fleet.append hotkey node)
          (hotkey, .node fleet.freshId)) := by
  rw [((fleet.append_scored_perm hotkey whole).map _).sum_eq, List.map_cons, List.sum_cons,
    add_comm]
  congr 2
  apply List.map_congr_left
  intro item member
  have listed := (mem_appended_scored hotkey whole).mpr (.inr member)
  cases rented : (fleet.portion item.2).isRented with
  | false => rw [appended_prepared hotkey denominators member rented]
  | true =>
    have laterRented : (prepared (env.withDenominators denominators)
        (fleet.append hotkey node) item).isRented = true := by
      rw [prepared_isRented, fleet.append_portion hotkey node (fleet.id_mem_ids member), rented]
    rw [uncounted _ ((later.priced listed).not_counted laterRented),
      uncounted _ ((completes.priced member).not_counted
        ((prepared_isRented item).trans rented))]

theorem appended_sameBuckets (completes : Completes env fleet)
    (later : Completes (env.withDenominators denominators) (fleet.append hotkey node))
    (ref : ResultRef) :
    SameBuckets
      (preparedState (env.withDenominators denominators) (fleet.append hotkey node)).pools
      ((preparedState env fleet).pools.count ref
        (prepared (env.withDenominators denominators) (fleet.append hotkey node)
          (hotkey, .node fleet.freshId))) where
  counts := by
    intro key
    rw [count_getD, preparedState_pools, preparedState_pools, countAll_gpusIn, countAll_gpusIn]
    apply appended_sum hotkey denominators whole completes later
    intro result uncounted
    simp [gpusIn, uncounted]
  rates := by
    intro weight
    rw [count_sumWith, preparedState_pools, preparedState_pools, countAll_rateUnder,
      countAll_rateUnder]
    apply appended_sum hotkey denominators whole completes later
    intro result uncounted
    simp [rateUnder, uncounted]

end Whole

end Appended

/-! ## Runs without split candidates -/

theorem reassignedState_of_no_candidates
    (noCandidates : (preparedState env fleet).pools.splitFallbackCandidates = []) :
    reassignedState env fleet = preparedState env fleet := by
  rw [reassignedState, reassignSplitCandidates, noCandidates]
  rfl

theorem appended_no_candidates (hotkey : String) (denominators : PyDict String ℕ)
    (whole : freeGpuCountOfPartiallyRentedSplit node = none)
    (later : Completes (env.withDenominators denominators) (fleet.append hotkey node))
    (noCandidates : (preparedState env fleet).pools.splitFallbackCandidates = [])
    (pinned : ((prepared (env.withDenominators denominators) (fleet.append hotkey node)
        (hotkey, .node fleet.freshId)).isCounted &&
      isSplitFallbackCandidate (prepared (env.withDenominators denominators)
        (fleet.append hotkey node) (hotkey, .node fleet.freshId))) = false) :
    (preparedState (env.withDenominators denominators)
      (fleet.append hotkey node)).pools.splitFallbackCandidates = [] := by
  simp only [preparedState_splitFallbackCandidates, candidatesOf, List.map_eq_nil_iff,
    List.filter_eq_nil_iff, Bool.not_eq_true] at noCandidates ⊢
  intro item member
  rcases (mem_appended_scored hotkey whole).mp member with rfl | listed
  · exact pinned
  · cases rented : (fleet.portion item.2).isRented with
    | false =>
      rw [appended_prepared hotkey denominators listed rented]
      exact noCandidates item listed
    | true =>
      have laterRented : (prepared (env.withDenominators denominators)
          (fleet.append hotkey node) item).isRented = true := by
        rw [prepared_isRented, fleet.append_portion hotkey node (fleet.id_mem_ids listed), rented]
      rw [(later.priced member).not_counted laterRented, Bool.false_and]

end Lium.RentalPrice
