import Lium.Foundation.Text
import Lium.Incentive.Snapshot

/-! # Estimates

`estimate_executor` prices one hypothetical executor against a snapshot. A fresh incentive
object is seeded from the snapshot, and the executor alone goes through the three stages of
real scoring.
-/

namespace Lium

structure ExecutorEstimateParams where
  gpuModel : String
  gpuCount : ℕ := 1
  isRented : Bool := false
  gpuSplitting : Bool := false
  gpuSplittingMinCount : Option ℕ := none
  sysboxRuntime : Bool := true
  collateralDeposited : Bool := true

/-- `usdPerEpoch` is `none` when there is no estimate for the model. -/
structure RentalPriceEstimate where
  gpuModel : String
  baseModel : String
  gpuCount : ℕ
  isRented : Bool
  usdPerEpoch : Option ℚ
  countBucket : Option ℕ := none
  miningScore : Option ℚ := none
  sysboxMultiplier : Option ℚ := none
  providerDiscordConnected : Bool := true
  uptimeMultiplier : Option ℚ := none
  gpuPortion : Option ℚ := none
  totalGpuCount : Option ℕ := none
  incentive : Option ℚ := none
  effectiveRate : Option ℚ := none
  hourlyRate : Option ℚ := none
  maxCap : Option ℕ := none
  totalUnrentedByGpuType : Option ℕ := none
  capDilutionApplied : Option Bool := none
  eligibleForRentalShare : Bool := false
  unrentedCapMultiplier : Option ℚ := none
  rentalShare : Option ℚ := none
  burnShare : Option ℚ := none
  totalRentalCost : Option ℚ := none

def rtx4090With48Gb : String := "NVIDIA GeForce RTX 4090 48GB"

namespace RentalPrice

/-! ## Seeding -/

/-- The bucket a key of the snapshot names: `rsplit("·", 1)` and `int`. -/
def bucketKeyOfStr (runtime : PyRuntime) (keyStr : String) : Except PyError BucketKey :=
  match Text.rsplitOnce '·' keyStr with
  | none => .error .valueError
  | some (baseModel, bucketStr) =>
    -- Buckets are GPU counts, so a negative numeral names none of them.
    match runtime.intOfText bucketStr with
    | some (.ofNat bucket) => .ok (baseModel, bucket)
    | _ => .error .valueError

def seedBucket (runtime : PyRuntime) (pools : Pools) (entry : String × GpuBucketRentalState) :
    Except PyError Pools := do
  let key ← bucketKeyOfStr runtime entry.1
  return { pools with
    unrentedCountByBucket := pools.unrentedCountByBucket.set key entry.2.unrentedCount
    weightedRateSumByBucket := pools.weightedRateSumByBucket.set key entry.2.weightedRateSum }

/-- The pools after `_seed_state_from_snapshot` and the seeded mining score. -/
def seedPools (runtime : PyRuntime) (snapshot : RentalPriceSnapshot) : Except PyError Pools :=
  snapshot.rental.byBucket.items.foldlM (seedBucket runtime)
    { totalMiningScore := snapshot.mining.totalMiningScore }

/-- An incentive object built with `snapshot=`, which is to score one result. -/
def seedStateFromSnapshot (runtime : PyRuntime) (snapshot : RentalPriceSnapshot)
    (result : JobResult) : Except PyError IncentiveState := do
  let pools ← seedPools runtime snapshot
  return {
    jobResults := []
    heap := fun _ => result
    pools
    shares :=
      { unbucketedRentalCost := snapshot.rental.unbucketedRentalCost
        epochSubnetEmission := snapshot.epochSubnetEmission }
    seedSnapshot := some snapshot }

/-! ## The hypothetical executor -/

def hypotheticalNode (settings : Settings) (params : ExecutorEstimateParams) : ValidatedNode where
  executorInfo := { uuid := "estimate", address := "0.0.0.0", port := 0, sshPort := 0 }
  score := 1
  jobScore := 1
  gpuModel := some params.gpuModel
  gpuCount := params.gpuCount
  isRented := params.isRented
  supportsGpuSplitting := params.gpuSplitting
  gpuSplittingMinCount := params.gpuSplittingMinCount
  collateralDeposited := params.collateralDeposited
  sysboxRuntime := params.sysboxRuntime
  nvidiaDriverVersion := settings.minNvidiaDriverVersion

def hypotheticalItem : String × ResultRef := ("estimate", .node 0)

def scoreHypothetical (env : Env) (state : IncentiveState) : Except PyError IncentiveState := do
  let result ← (prepareJobResult env (state.heap hypotheticalItem.2)).mapError Raised.error
  let state := onFinishPreProcess env (commitPrepared hypotheticalItem result state)
  return state.write hypotheticalItem.2
    (payJobResult env state.pools state.shares (state.heap hypotheticalItem.2))

def readEstimate (gpuModel baseModel : String) (state : IncentiveState) : RentalPriceEstimate :=
  let result := state.heap hypotheticalItem.2
  { gpuModel
    baseModel
    gpuCount := result.gpuCount
    isRented := result.isRented
    usdPerEpoch :=
      some (result.incentive.getD 0 * state.shares.epochSubnetEmission * fixedRatio)
    countBucket := result.countBucket
    miningScore := result.miningScore
    sysboxMultiplier := result.sysboxMultiplier
    providerDiscordConnected := result.providerDiscordConnected
    uptimeMultiplier := result.uptimeMultiplier
    gpuPortion := result.gpuPortion
    totalGpuCount := result.totalGpuCount
    incentive := result.incentive
    effectiveRate := result.effectiveRate
    hourlyRate := result.hourlyRate
    maxCap := result.maxCap
    totalUnrentedByGpuType := result.totalUnrentedByGpuType
    capDilutionApplied := result.capDilutionApplied
    eligibleForRentalShare := result.eligibleForRentalShare
    unrentedCapMultiplier := result.unrentedCapMultiplier
    rentalShare := result.rentalShare
    burnShare := result.burnShare
    totalRentalCost := result.totalRentalCost }

def unscoredEstimate (params : ExecutorEstimateParams) (usdPerEpoch : Option ℚ) :
    RentalPriceEstimate where
  gpuModel := params.gpuModel
  baseModel := (baseGpuMap.lookup params.gpuModel).getD params.gpuModel
  gpuCount := params.gpuCount
  isRented := params.isRented
  usdPerEpoch := usdPerEpoch

/-- The card the validator rejects while its model is off. -/
def isModelOff (settings : Settings) (gpuModel : String) : Bool :=
  gpuModel = rtx4090With48Gb && !settings.rtx4090With48GbModelEnabled

def eligibleForUnrentedEstimate (config : IncentiveConfig) (baseModel : String) : Bool :=
  (config.capSpec baseModel).values.any (0 < ·)

def estimateExecutor (env : Env) (snapshot : RentalPriceSnapshot)
    (params : ExecutorEstimateParams) : Except PyError RentalPriceEstimate := do
  let seeded ← seedStateFromSnapshot env.runtime snapshot
    (.fresh (hypotheticalNode env.settings params))
  if isModelOff env.settings params.gpuModel then
    return { unscoredEstimate params none with baseModel := params.gpuModel }
  match baseGpuMap.lookup params.gpuModel with
  | none => return unscoredEstimate params (some 0)
  | some baseModel =>
    if !params.isRented && !eligibleForUnrentedEstimate env.config baseModel then
      return unscoredEstimate params (some 0)
    let totalMapWithHypo :=
      snapshot.mining.totalGpuModelCountMap.add params.gpuModel params.gpuCount
    let scored ← scoreHypothetical (env.withDenominators totalMapWithHypo) seeded
    return readEstimate params.gpuModel baseModel scored

end RentalPrice

end Lium
