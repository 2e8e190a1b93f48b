import Lium.Incentive.Hypothetical

/-! # Estimates of idle executors

For an idle executor the snapshot is a sufficient summary of the cycle: what the estimate
says it would be paid is what it is paid once it has joined.
-/

namespace Lium.RentalPrice

open Raising Scoring

section Idle

variable {env : Env} {fleet : Fleet} {params : ExecutorEstimateParams} {hotkey : String}
  {denominators : PyDict String ℕ}

theorem hypotheticalShares_eq (fleet : Fleet) {later : Fleet} {pools : Pools}
    (noCandidates : (preparedState (env.withDenominators denominators)
      later).pools.splitFallbackCandidates = [])
    (same : SameBuckets
      (preparedState (env.withDenominators denominators) later).pools pools) :
    multiplierIn (settledState (env.withDenominators denominators) later).shares =
        multiplierIn (hypotheticalShares env (getSnapshot env (finalState env fleet)) pools) ∧
      (settledState (env.withDenominators denominators) later).shares.totalRentalCost =
        (hypotheticalShares env (getSnapshot env (finalState env fleet)) pools).totalRentalCost ∧
      (settledState (env.withDenominators denominators) later).shares.rentalShare =
        (hypotheticalShares env (getSnapshot env (finalState env fleet)) pools).rentalShare := by
  have kept := hypotheticalShares_kept env (getSnapshot env (finalState env fleet)) pools
  have pooled : (settledState (env.withDenominators denominators) later).pools =
      (preparedState (env.withDenominators denominators) later).pools := by
    rw [settledState_pools, reassignedState_of_no_candidates noCandidates]
  have cost : (settledState (env.withDenominators denominators) later).shares.totalRentalCost =
      (hypotheticalShares env (getSnapshot env (finalState env fleet)) pools).totalRentalCost := by
    rw [settledState_bucketCost, settledState_capMultipliers, pooled, kept.2.1]
    exact same.cost_eq env.config
  refine ⟨?_, cost, ?_⟩
  · funext key
    rw [multiplierIn, multiplierIn, settledState_capMultipliers, pooled, kept.1]
    exact same.multiplier_eq env.config key
  · have emission : (getSnapshot env (finalState env fleet)).epochSubnetEmission =
        fetchedEmission env := by
      change (finalState env fleet).shares.epochSubnetEmission = _
      rw [finalState_shares, settledState_epochSubnetEmission]
    rw [settledState_rentalShare, sharesFor_rentalShare_eq, cost, kept.2.1]
    exact congrArg (fun emission => min (shareForRentalCost emission _) _) emission.symm

theorem idle_pay {env : Env} {pools : Pools} {shares : Shares} {result : JobResult}
    (priced : Priced env result) (unpaid : result.incentive = none)
    (idle : result.isRented = false) (notSpot : result.spotPayCandidate = false)
    (noFiller : result.fillerRevenuePerGpuHour = none)
    (mining_nonneg : 0 ≤ pools.totalMiningScore) (cost_nonneg : 0 ≤ shares.totalRentalCost)
    (unbucketed_nonneg : 0 ≤ shares.unbucketedRentalCost) :
    (payJobResult env pools shares result).incentive.getD 0 =
      proRata shares.rentalShare shares.totalRentalCost
        (bucketClaim (multiplierIn shares) result) := by
  have noMining : miningClaim result = 0 := priced.outOfMining idle
  have noTopUp : unbucketedClaim (multiplierIn shares) result = 0 := by
    simp [unbucketedClaim, notSpot, topUpRate, flooredRate, noFiller]
  rw [payJobResult_incentive priced unpaid mining_nonneg cost_nonneg unbucketed_nonneg, noMining,
    noTopUp, proRata_zero_claim, proRata_zero_claim, zero_add, add_zero]

theorem Completes.idle_pay_eq (completes : Completes env fleet)
    (noCandidates : (preparedState env fleet).pools.splitFallbackCandidates = [])
    (idle : params.isRented = false) (unsplit : params.gpuSplitting = false)
    (later : Completes (env.withDenominators denominators) (joined env fleet params hotkey))
    {result : JobResult}
    (scored : prepared (env.withDenominators denominators) (joined env fleet params hotkey)
      (joinedItem fleet hotkey) = result)
    (returned : prepareJobResult env (.fresh (hypotheticalNode env.settings params)) =
      .ok result) :
    (paid (env.withDenominators denominators) (joined env fleet params hotkey)
        (joinedItem fleet hotkey)).incentive =
      (payJobResult env (estimatePools env fleet result)
        (hypotheticalShares env (getSnapshot env (finalState env fleet))
          (estimatePools env fleet result)) result).incentive := by
  subst scored
  have member := joinedItem_mem env fleet params hotkey
  have notSpot := hypothetical_not_spot returned
  have noFiller := hypothetical_noFiller returned
  have stillIdle := (hypothetical_isRented returned).trans idle
  have unpaid := hypothetical_unpaid returned
  have laterNone := appended_no_candidates hotkey denominators (hypotheticalNode_whole _ _) later
    noCandidates (hypothetical_pinned returned (.inr unsplit))
  have summary : SameBuckets (preparedState env fleet).pools
      (summarised (finalState env fleet).pools) := by
    rw [finalState_pools, settledState_pools, reassignedState_of_no_candidates noCandidates]
    exact ⟨fun _ => rfl, fun _ => rfl⟩
  have same : SameBuckets _ (estimatePools env fleet _) :=
    (appended_sameBuckets hotkey denominators (hypotheticalNode_whole _ _) completes later
      hypotheticalItem.2).trans (summary.count _ _ _)
  rcases hypotheticalShares_eq fleet laterNone same with ⟨multiplier, cost, share⟩
  have stored : (settledState (env.withDenominators denominators)
      (joined env fleet params hotkey)).heap (joinedItem fleet hotkey).2 =
      prepared (env.withDenominators denominators) (joined env fleet params hotkey)
        (joinedItem fleet hotkey) := by
    rw [settledState_heap_of_not_spot member notSpot, reassignedState_of_no_candidates laterNone,
      preparedState_heap _ _ member]
  have priced := (hypothetical_preparedPriced returned).2
  have nonneg := later.totals_nonneg
  have seedNonneg := completes.totals_nonneg
  rw [paid, stored]
  apply eq_of_isSome_of_getD
  · rw [payJobResult_isSome, payJobResult_isSome]
  · rw [idle_pay (later.priced member) unpaid stillIdle notSpot noFiller nonneg.1 nonneg.2.1
      nonneg.2.2, idle_pay priced unpaid stillIdle notSpot noFiller, multiplier, cost, share]
    · rw [estimatePools_totalMiningScore]
      exact add_nonneg seedNonneg.1 (miningClaim_nonneg priced)
    · rw [← cost]
      exact nonneg.2.1
    · rw [(hypotheticalShares_kept _ _ _).2.2, snapshot_unbucketedRentalCost]
      exact seedNonneg.2.2

end Idle

theorem eligibleForUnrentedEstimate_of_cap {config : IncentiveConfig} {baseModel : String}
    {bucket : ℕ} (cap : 0 < config.cap baseModel bucket) :
    eligibleForUnrentedEstimate config baseModel = true := by
  rw [IncentiveConfig.cap, PyDict.getD] at cap
  cases found : (config.capSpec baseModel).get? bucket with
  | none =>
    rw [found] at cap
    exact absurd cap (lt_irrefl 0)
  | some listed =>
    rw [found] at cap
    rw [eligibleForUnrentedEstimate, List.any_eq_true]
    exact ⟨listed, List.mem_map_of_mem ((config.capSpec baseModel).mem_of_get? found),
      decide_eq_true cap⟩

/-- After a completed run without split candidates, an idle executor of a model that is on, with
capacity in its bucket, is paid what it was estimated once it has joined a miner. -/
theorem idle_estimate_eq_live_pay (env : Env) (fleet : Fleet) {final : IncentiveState}
    (run : calculateMiningScores env fleet = .ok final)
    (noCandidates : final.pools.splitFallbackCandidates = [])
    (params : ExecutorEstimateParams) (idle : params.isRented = false)
    (unsplit : params.gpuSplitting = false)
    (modelOn : isModelOff env.settings params.gpuModel = false) {baseModel : String}
    (known : baseGpuMap.lookup params.gpuModel = some baseModel)
    (cap : 0 < env.config.cap baseModel params.gpuCount) (hotkey : String)
    (scored : hotkey ∉ env.getScoringExcludedHotkeys)
    (idlePaid : hotkey ∉ env.getIdleIncentiveExcludedHotkeys)
    (denominators : PyDict String ℕ)
    (again : Succeeds (calculateMiningScores (env.withDenominators denominators) fleet)) :
    ∃ estimate live,
      estimateExecutor env (getSnapshot env final) params = .ok estimate ∧
      calculateMiningScores (env.withDenominators denominators)
        (fleet.append hotkey (hypotheticalNode env.settings params)) = .ok live ∧
      (live.heap (.node fleet.freshId)).incentive = estimate.incentive := by
  rcases (calculateMiningScores_eq_ok_iff env fleet).mp run with ⟨completes, rfl⟩
  rw [finalState_pools, settledState_pools, reassignedState,
    reassignSplitCandidates_kept env (·.pools.splitFallbackCandidates)
      (fun _ _ _ _ _ _ _ => rfl)] at noCandidates
  have modelKnown : knownGpuModel (some params.gpuModel) = true := by
    simp [knownGpuModel, known]
  rcases again with ⟨other, rerun⟩
  have rescored := ((calculateMiningScores_eq_ok_iff _ _).mp rerun).1
  have later := rescored.join params modelKnown scored (.inr idlePaid)
  have returned := later.preparation_eq (joinedItem_mem env fleet params hotkey)
  rw [joined_preparation params hotkey denominators scored (.inr idlePaid),
    prepareJobResult_withDenominators env denominators rfl idle] at returned
  have estimated := returned
  rw [← prepareJobResult_withDenominators env
    (totalMapWithHypo (getSnapshot env (finalState env fleet)) params) rfl idle] at estimated
  rcases estimateExecutor_incentive params modelOn known
    (.inr (eligibleForUnrentedEstimate_of_cap cap)) (.inr unsplit) estimated
    with ⟨estimate, made, promised⟩
  refine ⟨estimate, _, made,
    (calculateMiningScores_eq_ok_iff _ _).mpr ⟨later, rfl⟩, ?_⟩
  rw [joined_incentive params hotkey denominators, promised]
  exact completes.idle_pay_eq noCandidates idle unsplit later rfl returned

theorem sample_idle_estimate_eq_live_pay :
    ∃ estimate live,
      estimateExecutor Sample.env (getSnapshot Sample.env (finalState Sample.env Sample.fleet))
        { gpuModel := Sample.gpuModel, gpuCount := 8 } = .ok estimate ∧
      calculateMiningScores (Sample.env.withDenominators .empty)
        (Sample.fleet.append "newcomer" (hypotheticalNode Sample.env.settings
          { gpuModel := Sample.gpuModel, gpuCount := 8 })) = .ok live ∧
      (live.heap (.node Sample.fleet.freshId)).incentive = estimate.incentive :=
  idle_estimate_eq_live_pay Sample.env Sample.fleet
    ((calculateMiningScores_eq_ok_iff _ _).mpr
      ⟨(completes_iff _ _).mpr (by decide +kernel), rfl⟩)
    (by decide +kernel) _ rfl rfl (by decide) rfl (by decide +kernel) "newcomer" (by decide)
    (by decide) .empty
    ((calculateMiningScores_succeeds_iff _ _).mpr (by decide +kernel))

/-! ## The model that is off -/

def offConfig : IncentiveConfig where
  rentalIncentiveGpuTypes := ["RTX 4090 48GB"]
  maxUnrentedGpus := .ofList [("RTX 4090 48GB", .ofList [(8, 16)])]
  rentalPricesPerHour := .ofList [(rtx4090With48Gb, 1)]
  gpuCountCustomPrices := .ofList [("*", .ofList [("*", .defaultPrice 1)])]

def offEnv : Env := { Sample.env with config := offConfig }

def offParams : ExecutorEstimateParams := { gpuModel := rtx4090With48Gb, gpuCount := 8 }

def emptyFleet : Fleet := .ofMiner "miner" 0 fun _ => Sample.idle

theorem off_model_estimate_differs :
    (finalState offEnv emptyFleet).pools.splitFallbackCandidates = [] ∧
      0 < offEnv.config.cap "RTX 4090 48GB" offParams.gpuCount ∧
      calculateMiningScores offEnv emptyFleet = .ok (finalState offEnv emptyFleet) ∧
      (estimateExecutor offEnv (getSnapshot offEnv (finalState offEnv emptyFleet))
        offParams).toOption.map RentalPriceEstimate.incentive = some none ∧
      (calculateMiningScores offEnv (emptyFleet.append "miner"
        (hypotheticalNode offEnv.settings offParams))).toOption.map
          (fun live => (live.heap (.node emptyFleet.freshId)).incentive) =
        some (some (2 / 9225)) := by
  refine ⟨by decide +kernel, by decide +kernel, ?_, by decide +kernel, by decide +kernel⟩
  exact (calculateMiningScores_eq_ok_iff _ _).mpr
    ⟨(completes_iff _ _).mpr (by decide +kernel), rfl⟩

end Lium.RentalPrice
