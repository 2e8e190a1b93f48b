import Lium.Incentive.AppendedRun
import Lium.Incentive.SnapshotSeed

/-! # Scoring the hypothetical executor

What the three stages make of the one result of a seeded state, and when an estimate is
made at all.
-/

namespace Lium.RentalPrice

open Raising Scoring

variable {env : Env} {params : ExecutorEstimateParams} {baseModel : String} {prepared : JobResult}

def seededState (snapshot : RentalPriceSnapshot) (pools : Pools) (result : JobResult) :
    IncentiveState where
  jobResults := []
  heap := fun _ => result
  pools := pools
  shares :=
    { unbucketedRentalCost := snapshot.rental.unbucketedRentalCost
      epochSubnetEmission := snapshot.epochSubnetEmission }
  seedSnapshot := some snapshot

def hypotheticalShares (env : Env) (snapshot : RentalPriceSnapshot) (pools : Pools) : Shares :=
  let multipliers := capMultipliers env.config pools.unrentedCountByBucket .empty
  settleShares env (some snapshot)
    { capMultiplierByBucket := multipliers
      totalRentalCost := bucketRentalCost pools.weightedRateSumByBucket multipliers
      unbucketedRentalCost := snapshot.rental.unbucketedRentalCost
      epochSubnetEmission := snapshot.epochSubnetEmission }

section Seeded

variable (env : Env) (snapshot : RentalPriceSnapshot) (pools : Pools) {result : JobResult}
  (spot : prepared.spotPayCandidate = false) (noFiller : prepared.fillerRevenuePerGpuHour = none)
  (pinned : (prepared.isCounted && isSplitFallbackCandidate prepared) = false)

include spot noFiller pinned

theorem finishHypothetical_eq :
    onFinishPreProcess env
        (commitPrepared hypotheticalItem prepared
          (seededState snapshot (summarised pools) result)) =
      { commitPrepared hypotheticalItem prepared
          (seededState snapshot (summarised pools) result) with
        shares := hypotheticalShares env snapshot
          ((summarised pools).count hypotheticalItem.2 prepared) } := by
  have noSplit : ((summarised pools).count hypotheticalItem.2
      prepared).splitFallbackCandidates = [] := by
    rw [Pools.count_splitFallbackCandidates, pinned]
    rfl
  have noSpot : ((summarised pools).count hypotheticalItem.2 prepared).spotPayCandidates =
      [] := by
    rw [Pools.count_spotPayCandidates, spot]
    rfl
  have noFloor : ((summarised pools).count hypotheticalItem.2
      prepared).secureFloorCandidates = [] := by
    rw [Pools.count_secureFloorCandidates, noFiller, Option.isSome_none, Bool.and_false]
    rfl
  have unsorted (heap : ResultRef → JobResult) : sortedByUuid heap [] = [] := rfl
  simp only [onFinishPreProcess, reassignSplitCandidates, unsorted, List.foldl_nil, settleCosts,
    spotPay, secureFloorTopUp, commitPrepared, seededState, IncentiveState.write, noSplit, noSpot,
    noFloor, List.map_nil, List.sum_nil, zero_add, add_zero]
  rfl

theorem scoreHypothetical_eq (returned : prepareJobResult env result = .ok prepared) :
    ∃ scored, scoreHypothetical env (seededState snapshot (summarised pools) result) =
        .ok scored ∧
      scored.heap hypotheticalItem.2 =
        payJobResult env ((summarised pools).count hypotheticalItem.2 prepared)
          (hypotheticalShares env snapshot
            ((summarised pools).count hypotheticalItem.2 prepared)) prepared := by
  have preparing : prepareJobResult env
      ((seededState snapshot (summarised pools) result).heap hypotheticalItem.2) =
      .ok prepared := returned
  have stored : (commitPrepared hypotheticalItem prepared
      (seededState snapshot (summarised pools) result)).heap hypotheticalItem.2 = prepared := by
    simp [commitPrepared, IncentiveState.write]
  rw [scoreHypothetical, preparing]
  refine ⟨_, rfl, ?_⟩
  rw [IncentiveState.write]
  simp only [Function.update_self, finishHypothetical_eq env snapshot pools spot noFiller pinned,
    stored]
  rfl

end Seeded

theorem estimateExecutor_eq {snapshot : RentalPriceSnapshot} {pools : Pools}
    {scored : IncentiveState} (seeds : seedPools env.runtime snapshot = .ok pools)
    (modelOn : isModelOff env.settings params.gpuModel = false)
    (known : baseGpuMap.lookup params.gpuModel = some baseModel)
    (offered : params.isRented = true ∨ eligibleForUnrentedEstimate env.config baseModel = true)
    (scores : scoreHypothetical
      (env.withDenominators
        (snapshot.mining.totalGpuModelCountMap.add params.gpuModel params.gpuCount))
      (seededState snapshot pools (.fresh (hypotheticalNode env.settings params))) =
        .ok scored) :
    estimateExecutor env snapshot params =
      .ok (readEstimate params.gpuModel baseModel scored) := by
  have seeded : seedStateFromSnapshot env.runtime snapshot
      (.fresh (hypotheticalNode env.settings params)) =
      .ok (seededState snapshot pools (.fresh (hypotheticalNode env.settings params))) := by
    rw [seedStateFromSnapshot, seeds]
    rfl
  have scoredAtAll : (!params.isRented && !eligibleForUnrentedEstimate env.config baseModel) =
      false := by
    rcases offered with rented | eligible
    · rw [rented, Bool.not_true, Bool.false_and]
    · rw [eligible, Bool.not_true, Bool.and_false]
  simp only [estimateExecutor, seeded, modelOn, known, scoredAtAll, scores, bind, Except.bind,
    Bool.false_eq_true, if_false]
  rfl

/-! ## The settled shares -/

def fetchedEmission (env : Env) : ℚ :=
  match env.prices.taoPrice, env.prices.alphaRate with
  | some taoPrice, some alphaRate => tempo * taoPrice * alphaRate
  | _, _ => 0

theorem sharesFor_rentalShare_eq (env : Env) (cost unbucketed : ℚ) :
    (sharesFor env cost unbucketed).rentalShare =
      min (shareForRentalCost (fetchedEmission env) cost) env.shared.getTotalBurnEmission := by
  rcases Option.eq_none_or_eq_some env.prices.taoPrice with noTao | ⟨taoPrice, tao⟩
  · simp [sharesFor, settleShares, fetchedEmission, pricesMissing, noTao, shareForRentalCost]
  · rcases Option.eq_none_or_eq_some env.prices.alphaRate with noAlpha | ⟨alphaRate, alpha⟩
    · simp [sharesFor, settleShares, fetchedEmission, pricesMissing, noAlpha,
        shareForRentalCost]
    · simp [sharesFor, settleShares, fetchPrices, fetchedEmission, pricesMissing, tao, alpha]

theorem hypotheticalShares_kept (env : Env) (snapshot : RentalPriceSnapshot) (pools : Pools) :
    (hypotheticalShares env snapshot pools).capMultiplierByBucket =
        capMultipliers env.config pools.unrentedCountByBucket .empty ∧
      (hypotheticalShares env snapshot pools).totalRentalCost =
        bucketRentalCost pools.weightedRateSumByBucket
          (capMultipliers env.config pools.unrentedCountByBucket .empty) ∧
      (hypotheticalShares env snapshot pools).unbucketedRentalCost =
        snapshot.rental.unbucketedRentalCost :=
  settleShares_kept _ _ _

theorem settledState_epochSubnetEmission (env : Env) (fleet : Fleet) :
    (settledState env fleet).shares.epochSubnetEmission = fetchedEmission env := by
  rw [settledState_shares_eq]
  simp only [withMultipliers, sharesFor, settleShares, fetchPrices, fetchedEmission]
  split <;> simp_all

/-! ## The hypothetical node -/

theorem hypotheticalNode_whole (settings : Settings) (params : ExecutorEstimateParams) :
    freeGpuCountOfPartiallyRentedSplit (hypotheticalNode settings params) = none := by
  simp [freeGpuCountOfPartiallyRentedSplit, hypotheticalNode]

theorem hypotheticalNode_readable (env : Env) (params : ExecutorEstimateParams)
    (known : knownGpuModel (some params.gpuModel) = true) :
    isReadable env (.fresh (hypotheticalNode env.settings params)) = true := by
  have modelKnown : knownGpuModel
      (JobResult.fresh (hypotheticalNode env.settings params)).gpuModel = true := known
  have untimed : rentalTimeReadable env (.fresh (hypotheticalNode env.settings params)) = true :=
    Bool.or_true _
  rw [isReadable, modelKnown, untimed]
  simp [scrapeReadable, Gates.portsReadable, Gates.diskReadable, Gates.capabilityReadable,
    Gates.remainderSizing, JobResult.fresh, hypotheticalNode]

theorem markHotkeyExcluded_hypothetical {hotkey : String} (params : ExecutorEstimateParams)
    (scored : hotkey ∉ env.getScoringExcludedHotkeys)
    (idlePaid : params.isRented = true ∨ hotkey ∉ env.getIdleIncentiveExcludedHotkeys) :
    markHotkeyExcluded env hotkey (.fresh (hypotheticalNode env.settings params)) =
      .fresh (hypotheticalNode env.settings params) := by
  have included : (decide (hotkey ∈ env.getScoringExcludedHotkeys) ||
      (decide (hotkey ∈ env.getIdleIncentiveExcludedHotkeys) && !params.isRented)) = false := by
    rcases idlePaid with rented | idlePaid
    · simp [scored, rented]
    · simp [scored, idlePaid]
  rw [markHotkeyExcluded]
  change { JobResult.fresh (hypotheticalNode env.settings params) with
    isHotkeyExcludedFromScoring := (decide (hotkey ∈ env.getScoringExcludedHotkeys) ||
      (decide (hotkey ∈ env.getIdleIncentiveExcludedHotkeys) && !params.isRented)) } = _
  rw [included]
  rfl

section Prepared

variable {settings : Settings}
  (returned : prepareJobResult env (.fresh (hypotheticalNode settings params)) = .ok prepared)

include returned

theorem hypothetical_preparedPriced :
    PreparedPriced env (.fresh (hypotheticalNode settings params)) prepared :=
  (prepareJobResult_preparedPriced env ⟨rfl, rfl, rfl, rfl⟩).of_ok returned

theorem hypothetical_kept {β : Type} (field : JobResult → β)
    (unwritten : ∀ original prepared, field (prepareOver original prepared) = field original) :
    field prepared = field (.fresh (hypotheticalNode settings params)) := by
  have equal := unwritten (.fresh (hypotheticalNode settings params)) prepared
  rwa [(hypothetical_preparedPriced returned).1.frame] at equal

theorem hypothetical_not_spot : prepared.spotPayCandidate = false := by
  cases spot : prepared.spotPayCandidate with
  | false => rfl
  | true =>
    have onPath := ((hypothetical_preparedPriced returned).2.spot spot).2.1
    rw [hypothetical_kept returned onSpotPayPath fun _ _ => rfl] at onPath
    cases onPath

theorem hypothetical_noFiller : prepared.fillerRevenuePerGpuHour = none :=
  hypothetical_kept returned (·.fillerRevenuePerGpuHour) fun _ _ => rfl

theorem hypothetical_isRented : prepared.isRented = params.isRented :=
  hypothetical_kept returned (·.isRented) fun _ _ => rfl

theorem hypothetical_unpaid : prepared.incentive = none :=
  hypothetical_kept returned (·.incentive) fun _ _ => rfl

theorem hypothetical_pinned (unsplit : params.isRented = true ∨ params.gpuSplitting = false) :
    (prepared.isCounted && isSplitFallbackCandidate prepared) = false := by
  rcases unsplit with rented | unsplit
  · rw [(hypothetical_preparedPriced returned).2.not_counted
      ((hypothetical_isRented returned).trans rented), Bool.false_and]
  · have noSplits : prepared.splits = none := by
      rw [hypothetical_kept returned (·.splits) fun _ _ => rfl]
      simp [ValidatedNode.splits, hypotheticalNode, JobResult.fresh, unsplit]
    rw [isSplitFallbackCandidate, noSplits, Bool.and_false]

end Prepared

/-! ## The estimate and the live run -/

theorem eq_of_isSome_of_getD {left right : Option ℚ} (presence : left.isSome = right.isSome)
    (amount : left.getD 0 = right.getD 0) : left = right := by
  cases left <;> cases right <;> simp_all

section Live

variable {fleet : Fleet} (params : ExecutorEstimateParams)

def totalMapWithHypo (snapshot : RentalPriceSnapshot) (params : ExecutorEstimateParams) :
    PyDict String ℕ :=
  snapshot.mining.totalGpuModelCountMap.add params.gpuModel params.gpuCount

def estimatePools (env : Env) (fleet : Fleet) (prepared : JobResult) : Pools :=
  (summarised (finalState env fleet).pools).count hypotheticalItem.2 prepared

theorem estimateExecutor_incentive (modelOn : isModelOff env.settings params.gpuModel = false)
    (known : baseGpuMap.lookup params.gpuModel = some baseModel)
    (offered : params.isRented = true ∨ eligibleForUnrentedEstimate env.config baseModel = true)
    (unsplit : params.isRented = true ∨ params.gpuSplitting = false) (returned : prepareJobResult
      (env.withDenominators (totalMapWithHypo (getSnapshot env (finalState env fleet)) params))
      (.fresh (hypotheticalNode env.settings params)) = .ok prepared) :
    ∃ estimate, estimateExecutor env (getSnapshot env (finalState env fleet)) params =
        .ok estimate ∧
      estimate.incentive = (payJobResult env (estimatePools env fleet prepared)
        (hypotheticalShares env (getSnapshot env (finalState env fleet))
          (estimatePools env fleet prepared)) prepared).incentive := by
  have seeds := seedPools_getSnapshot env (finalState_sameKeys env fleet)
  rcases scoreHypothetical_eq _ (getSnapshot env (finalState env fleet))
    (finalState env fleet).pools (hypothetical_not_spot returned)
    (hypothetical_noFiller returned) (hypothetical_pinned returned unsplit) returned with
    ⟨scored, scores, result⟩
  refine ⟨_, estimateExecutor_eq seeds modelOn known offered scores, ?_⟩
  exact congrArg JobResult.incentive result

theorem estimatePools_totalMiningScore (env : Env) (fleet : Fleet) (prepared : JobResult) :
    (estimatePools env fleet prepared).totalMiningScore =
      (settledState env fleet).pools.totalMiningScore + miningClaim prepared := by
  rw [estimatePools, Pools.count_totalMiningScore, ← finalState_pools]
  rfl

theorem snapshot_unbucketedRentalCost (env : Env) (fleet : Fleet) :
    (getSnapshot env (finalState env fleet)).rental.unbucketedRentalCost =
      (settledState env fleet).shares.unbucketedRentalCost := by
  rw [← finalState_shares]
  rfl

abbrev joined (env : Env) (fleet : Fleet) (params : ExecutorEstimateParams) (hotkey : String) :
    Fleet :=
  fleet.append hotkey (hypotheticalNode env.settings params)

abbrev joinedItem (fleet : Fleet) (hotkey : String) : String × ResultRef :=
  (hotkey, .node fleet.freshId)

variable (hotkey : String) (denominators : PyDict String ℕ)

variable (env fleet) in
theorem joinedItem_mem : joinedItem fleet hotkey ∈ (joined env fleet params hotkey).scored :=
  (mem_appended_scored hotkey (hypotheticalNode_whole _ _)).mpr (.inl rfl)

theorem joined_preparation (scored : hotkey ∉ env.getScoringExcludedHotkeys)
    (idlePaid : params.isRented = true ∨ hotkey ∉ env.getIdleIncentiveExcludedHotkeys) :
    preparation (env.withDenominators denominators) (joined env fleet params hotkey)
        (joinedItem fleet hotkey) =
      prepareJobResult (env.withDenominators denominators)
        (.fresh (hypotheticalNode env.settings params)) := by
  rw [preparation, fleet.append_portion_freshId hotkey (hypotheticalNode_whole _ _)]
  exact congrArg _ (markHotkeyExcluded_hypothetical params scored idlePaid)

variable {hotkey denominators} in
theorem Completes.join (rescored : Completes (env.withDenominators denominators) fleet)
    (known : knownGpuModel (some params.gpuModel) = true)
    (scored : hotkey ∉ env.getScoringExcludedHotkeys)
    (idlePaid : params.isRented = true ∨ hotkey ∉ env.getIdleIncentiveExcludedHotkeys) :
    Completes (env.withDenominators denominators) (joined env fleet params hotkey) := by
  have marked := @markHotkeyExcluded_hypothetical (env.withDenominators denominators) hotkey params
    scored idlePaid
  have readable := hypotheticalNode_readable (env.withDenominators denominators) params known
  rw [← marked] at readable
  exact rescored.append hotkey (hypotheticalNode_whole _ _) readable

theorem joined_incentive :
    ((finalState (env.withDenominators denominators) (joined env fleet params hotkey)).heap
        (.node fleet.freshId)).incentive =
      (paid (env.withDenominators denominators) (joined env fleet params hotkey)
        (joinedItem fleet hotkey)).incentive := by
  have member := (joined env fleet params hotkey).mem_scored_node.mp
    (joinedItem_mem env fleet params hotkey)
  have whole : (joined env fleet params hotkey).isPartiallyRentedSplit fleet.freshId = false := by
    rw [Fleet.isPartiallyRentedSplit,
      fleet.append_whole hotkey (hypotheticalNode_whole _ _), Option.isSome_none]
  rw [finalState_node_incentive _ member, whole, if_neg Bool.false_ne_true]

end Live

end Lium.RentalPrice
