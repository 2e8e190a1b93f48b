import Lium.Incentive.State
import Mathlib.Data.List.Sort

/-! # The rental price algorithm

`RentalPriceIncentive.calculate_mining_scores`. Preparing a result writes to the result and to the
pools; the two never read each other's writes, so `prepareJobResult` and `Pools.count` are separate
functions.
-/

namespace Lium

def fillerRevenuePayFactor : ℚ := 1
def secureFillerRevenueFloorFactor : ℚ := 1

namespace JobResult

/-- `get_base_model_for_gpu` of a model that is known to be in the table. -/
def baseModel (result : JobResult) : String :=
  (result.gpuModel.bind (baseGpuMap.lookup ·)).getD ""

def hourlyRateValue (result : JobResult) : ℚ := result.hourlyRate.getD 0
def sysboxMultiplierValue (result : JobResult) : ℚ := result.sysboxMultiplier.getD 0
def driverMultiplierValue (result : JobResult) : ℚ := result.driverMultiplier.getD 0
def effectiveRateValue (result : JobResult) : ℚ := result.effectiveRate.getD 0

/-- USD/hour of the whole node before cap dilution. -/
def weightedRate (result : JobResult) : ℚ :=
  result.gpuCount * result.hourlyRateValue * result.sysboxMultiplierValue *
    result.driverMultiplierValue

def isCounted (result : JobResult) : Bool :=
  !result.spotPayCandidate && result.eligibleForRentalShare && 0 < result.hourlyRateValue &&
    0 < result.maxCap.getD 0

def bucketKey (result : JobResult) : BucketKey := (result.baseModel, result.countBucket.getD 0)

end JobResult

namespace RentalPrice

/-! ## Rates -/

def resolveBucket (result : JobResult) (capSpec : PyDict ℕ ℕ) : ℕ :=
  match result.splits with
  | none => result.gpuCount
  | some minCount =>
    if result.isSplitRemainder then minCount
    else if 0 < capSpec.getD result.gpuCount 0 then result.gpuCount
    else minCount

def listedHourlyRate (env : Env) (result : JobResult) : ℚ :=
  let rate (gpuCount : ℕ) : ℚ :=
    getHourlyRate (result.gpuModel.getD "") gpuCount env.config.gpuCountCustomPrices
      env.config.rentalPricesPerHour
  let ratedGpuCount :=
    if result.isSplitRemainder then result.gpuSplittingMinCount.getD 0 else result.gpuCount
  match result.splits with
  | none => rate ratedGpuCount
  | some minCount => max (rate ratedGpuCount) (rate minCount)

def spotSecureRate (result : JobResult) : ℚ :=
  result.hourlyRateValue * result.sysboxMultiplierValue * result.driverMultiplierValue

/-- The rates `_price_spot_node` sets. A configuration that earns no idle pay as a secure
node has a secure rate of 0. -/
def rateSpotNode (env : Env) (baseModel : String) (result : JobResult) : JobResult :=
  let bucket := resolveBucket result (env.config.capSpec baseModel)
  let paidAsSecure :=
    baseModel ∈ env.config.rentalIncentiveGpuTypes ∧ 0 < env.config.cap baseModel bucket
  let rated : JobResult :=
    { result with
      countBucket := some bucket
      sysboxMultiplier := some (env.unrentedSysboxMultiplier result.sysboxRuntime)
      driverMultiplier := some (env.getMinDriverMultiplier result.nvidiaDriverVersion)
      hourlyRate := some (if paidAsSecure then listedHourlyRate env result else 0) }
  { rated with
    effectiveRate := some (min
      (fillerRevenuePayFactor * (result.fillerRevenuePerGpuHour.getD 0 : ℚ≥0))
      (spotSecureRate rated)) }

/-- `_price_spot_node`, apart from joining the candidates. -/
def priceSpotNode (env : Env) (baseModel : String) (result : JobResult) : JobResult :=
  let offered := baseModel ∈ env.config.rentalIncentiveGpuTypes
  let hasCapacity :=
    0 < env.config.cap baseModel (resolveBucket result (env.config.capSpec baseModel))
  let result := rateSpotNode env baseModel result
  let result := result.recordReasonIf (!offered) .gpuModelNotEligibleForUnrentedIncentive
  let result := result.recordReasonIf (offered && !hasCapacity) .noUnrentedCapacityForGpuCount
  Scoring.recordZeroDriverAndSysboxReasons result.driverMultiplierValue
    result.sysboxMultiplierValue result

/-- The rate, multipliers and bucket of a node eligible for the rental share. -/
def rateIdleNode (env : Env) (baseModel : String) (result : JobResult) : JobResult :=
  let bucket := resolveBucket result (env.config.capSpec baseModel)
  { result with
    hourlyRate := some (listedHourlyRate env result)
    sysboxMultiplier := some (env.unrentedSysboxMultiplier result.sysboxRuntime)
    driverMultiplier := some (env.getMinDriverMultiplier result.nvidiaDriverVersion)
    countBucket := some bucket
    maxCap := some (env.config.cap baseModel bucket) }

/-! ## The pre-pass -/

/-- What `_pre_process_job_result` sets after the score. -/
def priceJobResult (env : Env) (baseModel : String) (result : JobResult) : JobResult :=
  if result.spotPayCandidate then priceSpotNode env baseModel result
  else if baseModel ∉ env.config.rentalIncentiveGpuTypes then result
  else if result.eligibleForRentalShare then rateIdleNode env baseModel result
  else result

/-- The part of `_pre_process_job_result` that writes to the result. -/
def prepareJobResult (env : Env) (result : JobResult) : Raising PyError JobResult JobResult :=
  let result := Scoring.recordOutdatedImageReason env result
  if !result.isSuccessful then .ok (Scoring.recordValidationFailedReason result)
  else do
    let result ← Scoring.calculateExecutorScore env result
    let result := Scoring.recordValidationFailedReason result
    let baseModel ← Raising.atState result (getBaseModelForGpu result.gpuModel)
    return priceJobResult env baseModel result

/-- The `is_hotkey_excluded_from_scoring` the loop sets before preparing a result. -/
def markHotkeyExcluded (env : Env) (hotkey : String) (result : JobResult) : JobResult :=
  { result with
    isHotkeyExcludedFromScoring :=
      hotkey ∈ env.getScoringExcludedHotkeys ||
        (hotkey ∈ env.getIdleIncentiveExcludedHotkeys && !result.isRented) }

def isSplitFallbackCandidate (result : JobResult) : Bool :=
  match result.splits with
  | none => false
  | some minCount =>
    result.countBucket = some result.gpuCount && result.countBucket ≠ some minCount

end RentalPrice

/-- The part of `_pre_process_job_result` that writes to the incentive object. -/
def Pools.count (ref : ResultRef) (result : JobResult) (pools : Pools) : Pools :=
  let pools :=
    { pools with totalMiningScore := pools.totalMiningScore + result.miningScore.getD 0 }
  let candidate := (result.baseModel, ref)
  if result.spotPayCandidate then
    { pools with spotPayCandidates := pools.spotPayCandidates ++ [candidate] }
  else if result.isCounted then
    { pools with
      unrentedCountByBucket := pools.unrentedCountByBucket.add result.bucketKey result.gpuCount
      weightedRateSumByBucket :=
        pools.weightedRateSumByBucket.add result.bucketKey result.weightedRate
      secureFloorCandidates :=
        if result.fillerRevenuePerGpuHour.isSome then pools.secureFloorCandidates ++ [candidate]
        else pools.secureFloorCandidates
      splitFallbackCandidates :=
        if RentalPrice.isSplitFallbackCandidate result then
          pools.splitFallbackCandidates ++ [candidate]
        else pools.splitFallbackCandidates }
  else pools

namespace RentalPrice

def commitPrepared (item : String × ResultRef) (result : JobResult) (state : IncentiveState) :
    IncentiveState :=
  { state.write item.2 result with pools := state.pools.count item.2 result }

def preProcessJobResult (env : Env) (item : String × ResultRef) (state : IncentiveState) :
    Raising PyError IncentiveState IncentiveState :=
  match prepareJobResult env (markHotkeyExcluded env item.1 (state.heap item.2)) with
  | .ok result => .ok (commitPrepared item result state)
  | .error raised => .error ⟨raised.error, state.write item.2 raised.left⟩

/-! ## Between the passes -/

/-- The result with its new bucket, when its node leaves an over-cap bucket for a split
tier that the whole node fits under. -/
def splitTierMove (config : IncentiveConfig) (counts : PyDict BucketKey ℕ) (baseModel : String)
    (result : JobResult) : Option JobResult :=
  let srcBucket := result.countBucket.getD 0
  let tgtBucket := result.gpuSplittingMinCount.getD 0
  let srcCap := config.cap baseModel srcBucket
  let tgtCap := config.cap baseModel tgtBucket
  let srcCount := counts.getD (baseModel, srcBucket) 0
  let tgtCount := counts.getD (baseModel, tgtBucket) 0
  if tgtCap = 0 then none
  else if srcCount ≤ srcCap then none
  else if tgtCap < tgtCount + result.gpuCount then none
  else
    some { result with
      bucketReassignedFrom := some srcBucket
      bucketReassignedFromMultiplier := some ((min srcCount srcCap : ℕ) / srcCount)
      countBucket := some tgtBucket
      maxCap := some tgtCap }

def movePools (pools : Pools) (source target : BucketKey) (gpuCount : ℕ)
    (weightedRate : ℚ) : Pools :=
  let counts := pools.unrentedCountByBucket
  { pools with
    unrentedCountByBucket :=
      (counts.set source (counts.getD source 0 - gpuCount)).set target
        (counts.getD target 0 + gpuCount)
    weightedRateSumByBucket :=
      (pools.weightedRateSumByBucket.add source (-weightedRate)).add target weightedRate }

def reassignSplitCandidate (env : Env) (state : IncentiveState)
    (candidate : String × ResultRef) : IncentiveState :=
  let (baseModel, ref) := candidate
  let result := state.heap ref
  match splitTierMove env.config state.pools.unrentedCountByBucket baseModel result with
  | none => state
  | some moved =>
    { state.write ref moved with
      pools := movePools state.pools (baseModel, result.countBucket.getD 0)
        (baseModel, moved.countBucket.getD 0) result.gpuCount result.weightedRate }

/-- Ascending executor uuid. The sort is stable, as Python's is. -/
def sortedByUuid (heap : ResultRef → JobResult) (candidates : List (String × ResultRef)) :
    List (String × ResultRef) :=
  candidates.insertionSort fun left right =>
    (heap left.2).executorInfo.uuid ≤ (heap right.2).executorInfo.uuid

def reassignSplitCandidates (env : Env) (state : IncentiveState) : IncentiveState :=
  (sortedByUuid state.heap state.pools.splitFallbackCandidates).foldl
    (reassignSplitCandidate env) state

def capMultipliers (config : IncentiveConfig) (counts : PyDict BucketKey ℕ)
    (multipliers : PyDict BucketKey ℚ) : PyDict BucketKey ℚ :=
  counts.setEach (fun key unrentedCount =>
    let maxCap := config.cap key.1 key.2
    if 0 < unrentedCount ∧ 0 < maxCap then
      some ((min unrentedCount maxCap : ℕ) / unrentedCount)
    else none) multipliers

def bucketRentalCost (weightedRateSums : PyDict BucketKey ℚ)
    (multipliers : PyDict BucketKey ℚ) : ℚ :=
  weightedRateSums.sumWith fun key weightedSum => multipliers.getD key 0 * weightedSum

/-- USD/hour the idle spot nodes of each model would be paid at their own rates. -/
def spotRateSumByModel (heap : ResultRef → JobResult) (candidates : List (String × ResultRef)) :
    PyDict String ℚ :=
  candidates.foldl (fun sums candidate =>
    let result := heap candidate.2
    sums.add candidate.1 (result.gpuCount * result.effectiveRateValue)) .empty

/-- What each model's fillers earn per hour, as its last candidate reports it. -/
def spotPoolByModel (heap : ResultRef → JobResult) (candidates : List (String × ResultRef)) :
    PyDict String ℚ :=
  candidates.foldl (fun pools candidate =>
    pools.set candidate.1 ((heap candidate.2).fillerRevenueUsdPerHour.getD 0 : ℚ≥0)) .empty

def spotPoolMultiplierOf (rateSums pools : PyDict String ℚ) (baseModel : String) : ℚ :=
  let rateSum := rateSums.getD baseModel 0
  if 0 < rateSum then min 1 (pools.getD baseModel 0 / rateSum) else 1

def scaleSpotPay (multiplier : ℚ) (result : JobResult) : JobResult :=
  { result with
    spotPoolMultiplier := some multiplier
    effectiveRate := some (result.effectiveRateValue * multiplier) }

/-- The heap after `_spot_pay_within_filler_earnings`. -/
def spotPayWithinFillerEarnings (heap : ResultRef → JobResult)
    (candidates : List (String × ResultRef)) : ResultRef → JobResult :=
  let rateSums := spotRateSumByModel heap candidates
  let pools := spotPoolByModel heap candidates
  Raising.updateEach Prod.snd
    (fun candidate => scaleSpotPay (spotPoolMultiplierOf rateSums pools candidate.1))
    candidates heap

def spotPay (heap : ResultRef → JobResult) (candidates : List (String × ResultRef)) : ℚ :=
  (candidates.map fun candidate =>
    (heap candidate.2).gpuCount * (heap candidate.2).effectiveRateValue).sum

def flooredRate (result : JobResult) (dilutedRate : ℚ) : ℚ :=
  match result.fillerRevenuePerGpuHour with
  | none => dilutedRate
  | some average =>
    if result.maxCap.getD 0 = 0 ∨ result.hourlyRateValue = 0 then dilutedRate
    else max dilutedRate (secureFillerRevenueFloorFactor * (average : ℚ≥0))

def secureFloorTopUp (heap : ResultRef → JobResult) (multipliers : PyDict BucketKey ℚ)
    (candidates : List (String × ResultRef)) : ℚ :=
  (candidates.map fun candidate =>
    let result := heap candidate.2
    let diluted :=
      result.hourlyRateValue * multipliers.getD (candidate.1, result.countBucket.getD 0) 0
    result.gpuCount * (flooredRate result diluted - diluted) * result.sysboxMultiplierValue *
      result.driverMultiplierValue).sum

/-- The emission share a USD/hour cost is worth. -/
def shareForRentalCost (epochSubnetEmission rentalCost : ℚ) : ℚ :=
  if epochSubnetEmission ≤ 0 then 0
  else rentalCost * (tempo * secondsPerBlock) / 3600 / fixedRatio / epochSubnetEmission

/-- The prices `_calculate_rental_share` fetches, unless the state was seeded from a
snapshot. A failed fetch leaves the emission as it was, and the raw share 0. -/
def fetchPrices (env : Env) (seedSnapshot : Option RentalPriceSnapshot) (shares : Shares) :
    Shares :=
  match seedSnapshot, env.prices.taoPrice, env.prices.alphaRate with
  | none, some taoPrice, some alphaRate =>
    { shares with
      validatorTaoPriceUsd := some taoPrice
      validatorAlphaRateTaoPerBlock := some alphaRate
      epochSubnetEmission := tempo * taoPrice * alphaRate }
  | _, _, _ => shares

def pricesMissing (env : Env) (seedSnapshot : Option RentalPriceSnapshot) : Bool :=
  seedSnapshot.isNone && (env.prices.taoPrice.isNone || env.prices.alphaRate.isNone)

/-- The rental share, capped at the burn emission, and the unbucketed share on top. -/
def settleShares (env : Env) (seedSnapshot : Option RentalPriceSnapshot) (shares : Shares) :
    Shares :=
  let shares := fetchPrices env seedSnapshot shares
  let totalBurnEmission := env.shared.getTotalBurnEmission
  let rentalShareRaw :=
    if pricesMissing env seedSnapshot then 0
    else shareForRentalCost shares.epochSubnetEmission shares.totalRentalCost
  let rentalShare := min rentalShareRaw totalBurnEmission
  let unbucketedShareRaw :=
    shareForRentalCost shares.epochSubnetEmission shares.unbucketedRentalCost
  let headroom := max 0 (totalBurnEmission - rentalShare)
  let unbucketedShare := min unbucketedShareRaw headroom
  { shares with
    rentalShareRaw := rentalShareRaw
    rentalShare := rentalShare
    unbucketedShareRaw := unbucketedShareRaw
    unbucketedShare := unbucketedShare
    unbucketedPaidFraction :=
      if 0 < unbucketedShareRaw then unbucketedShare / unbucketedShareRaw else 1
    burnShare := totalBurnEmission - rentalShare - unbucketedShare }

/-- The costs that the shares are settled for, after the reassignment. -/
def settleCosts (env : Env) (state : IncentiveState) : IncentiveState :=
  let multipliers :=
    capMultipliers env.config state.pools.unrentedCountByBucket
      state.shares.capMultiplierByBucket
  let spotCandidates := state.pools.spotPayCandidates
  let heap := spotPayWithinFillerEarnings state.heap spotCandidates
  { state with
    heap := heap
    shares :=
      { state.shares with
        capMultiplierByBucket := multipliers
        totalRentalCost := state.shares.totalRentalCost +
          bucketRentalCost state.pools.weightedRateSumByBucket multipliers
        unbucketedRentalCost := state.shares.unbucketedRentalCost +
          spotPay heap spotCandidates +
          secureFloorTopUp heap multipliers state.pools.secureFloorCandidates } }

def onFinishPreProcess (env : Env) (state : IncentiveState) : IncentiveState :=
  let state := settleCosts env (reassignSplitCandidates env state)
  { state with shares := settleShares env state.seedSnapshot state.shares }

/-! ## The post-pass -/

def miningShare (env : Env) : ℚ := 1 - env.shared.getTotalBurnEmission

def setCycleFormulaContext (env : Env) (shares : Shares) (result : JobResult) : JobResult :=
  { result with
    rentalShare := some shares.rentalShare
    rentalShareRaw := some shares.rentalShareRaw
    burnShare := some shares.burnShare
    totalBurnEmission := some env.shared.getTotalBurnEmission
    totalRentalCost := some shares.totalRentalCost
    validatorTaoPriceUsd := shares.validatorTaoPriceUsd
    validatorAlphaRateTaoPerBlock := shares.validatorAlphaRateTaoPerBlock
    estimatedEpochEmissionUsd := some shares.epochSubnetEmission
    tempoBlocks := some tempo
    secondsPerBlock := some secondsPerBlock
    fixedRatio := some fixedRatio }

/-- The amount `_pay_unbucketed` returns. -/
def unbucketedPay (shares : Shares) (gpuCount : ℕ) (topUpRate : ℚ) : ℚ :=
  if shares.unbucketedRentalCost ≤ 0 then 0
  else shares.unbucketedShare * gpuCount * topUpRate / shares.unbucketedRentalCost

/-- The fields `_pay_unbucketed` sets. -/
def recordUnbucketed (shares : Shares) (topUpRate : ℚ) (result : JobResult) : JobResult :=
  { result with
    unbucketedShare := some shares.unbucketedShare
    unbucketedRentalCost := some shares.unbucketedRentalCost
    floorTopUpRate := some topUpRate }

def unbucketedClampedToZero (shares : Shares) : Bool :=
  0 < shares.unbucketedShareRaw && shares.unbucketedShare ≤ 0

/-- `DefaultIncentive._post_process_job_result`: pay from the mining pool. -/
def payMining (env : Env) (pools : Pools) (result : JobResult) : JobResult :=
  let result :=
    { result with
      miningShare := some (miningShare env)
      totalMiningScore := some pools.totalMiningScore }
  match result.miningScore with
  | none => result
  | some miningScore =>
    { result with
      incentive := some
        (if 0 < pools.totalMiningScore then
          miningShare env * miningScore / pools.totalMiningScore
        else 0) }

def spotAmounts (env : Env) (shares : Shares) (result : JobResult) : JobResult :=
  let rate := result.effectiveRateValue
  { recordUnbucketed shares rate (setCycleFormulaContext env shares result) with
    incentive := some (unbucketedPay shares result.gpuCount rate) }

def paySpot (env : Env) (shares : Shares) (result : JobResult) : JobResult :=
  (spotAmounts env shares result).recordReasonIf
    (0 < result.effectiveRateValue && unbucketedClampedToZero shares) .spotNoHeadroomAtBurnCap

def paidBucketKey (env : Env) (result : JobResult) : BucketKey :=
  (result.baseModel,
    result.countBucket.getD (resolveBucket result (env.config.capSpec result.baseModel)))

def rentalAmounts (env : Env) (pools : Pools) (shares : Shares) (result : JobResult) :
    JobResult :=
  let key := paidBucketKey env result
  let totalUnrented := pools.unrentedCountByBucket.getD key 0
  let capMultiplier := shares.capMultiplierByBucket.getD key 0
  let dilutedRate := result.hourlyRateValue * capMultiplier
  let nodeMultiplier := result.sysboxMultiplierValue * result.driverMultiplierValue
  let effectiveRate := dilutedRate * nodeMultiplier
  let topUpRate := (flooredRate result dilutedRate - dilutedRate) * nodeMultiplier
  let bucketPay :=
    if 0 < shares.totalRentalCost then
      shares.rentalShare * result.gpuCount * effectiveRate / shares.totalRentalCost
    else 0
  let paid : JobResult :=
    { setCycleFormulaContext env shares result with
      totalUnrentedByGpuType := some totalUnrented
      capDilutionApplied := some (result.maxCap.getD 0 < totalUnrented)
      unrentedCapMultiplier := some capMultiplier
      effectiveRate := some effectiveRate
      incentive := some bucketPay }
  if 0 < topUpRate then
    { recordUnbucketed shares topUpRate paid with
      incentive := some (bucketPay + unbucketedPay shares result.gpuCount topUpRate) }
  else paid

def payRental (env : Env) (pools : Pools) (shares : Shares) (result : JobResult) : JobResult :=
  Scoring.recordZeroDriverAndSysboxReasons result.driverMultiplierValue
    result.sysboxMultiplierValue
    ((rentalAmounts env pools shares result).recordReasonIf
      (shares.capMultiplierByBucket.getD (paidBucketKey env result) 0 = 0)
      .noUnrentedCapacityForGpuCount)

/-- What `_post_process_job_result` makes of a result. -/
def payJobResult (env : Env) (pools : Pools) (shares : Shares) (result : JobResult) :
    JobResult :=
  if result.spotPayCandidate then paySpot env shares result
  else if !result.eligibleForRentalShare then
    setCycleFormulaContext env shares (payMining env pools result)
  else payRental env pools shares result

def splitIncentiveAcrossPools (result : JobResult) : JobResult :=
  match result.incentive with
  | none => result
  | some incentive =>
    let rented := if result.isRented then incentive else 0
    result.setIncentiveSplit rented (incentive - rented)

def addMinerIncentive (hotkey : String) (incentive : Option ℚ)
    (minerIncentives : PyDict String ℚ) : PyDict String ℚ :=
  match incentive with
  | none => minerIncentives
  | some incentive => minerIncentives.add hotkey incentive

def postProcessJobResult (env : Env) (state : IncentiveState) (item : String × ResultRef) :
    IncentiveState :=
  let paid := payJobResult env state.pools state.shares (state.heap item.2)
  { state.write item.2 (splitIncentiveAcrossPools paid) with
    minerIncentives := addMinerIncentive item.1 paid.incentive state.minerIncentives }

/-- `BaseIncentive.calculate_mining_scores`. -/
def scoreJobResults (env : Env) (state : IncentiveState) :
    Raising PyError IncentiveState IncentiveState := do
  let state ← Raising.forEach (preProcessJobResult env) state.scoringOrder state
  let state := onFinishPreProcess env state
  return state.scoringOrder.foldl (postProcessJobResult env) state

/-! ## Partially rented split nodes -/

def freeGpuCountOfPartiallyRentedSplit (node : ValidatedNode) : Option ℕ :=
  if node.isRented ∧ 0 < node.score ∧ node.splits.isSome ∧
      0 < node.rentedGpuCount.getD 0 ∧ node.rentedGpuCount.getD 0 < node.gpuCount then
    some (node.gpuCount - node.rentedGpuCount.getD 0)
  else none

/-- The deep copy that stands for the free GPUs. -/
def freePortion (result : JobResult) (freeGpuCount : ℕ) : JobResult :=
  { result with
    gpuCount := freeGpuCount
    isRented := false
    isSplitRemainder := true
    fillerRevenuePerGpuHour := none
    rentalCreatedAt := none
    rentedGpuCount := none
    zeroIncentiveReasons := [] }

def rentedPortion (result : JobResult) : JobResult :=
  { result with gpuCount := result.rentedGpuCount.getD 0 }

def modifyList (hotkey : String) (change : List ResultRef → List ResultRef)
    (jobResults : List (String × List ResultRef)) : List (String × List ResultRef) :=
  jobResults.map fun entry => if entry.1 = hotkey then (entry.1, change entry.2) else entry

/-- The body of the expansion loop. Only nodes are walked: the loop runs over a copy of
each list taken before any free portion is appended to it. -/
def expandResult (expanded : IncentiveState × List SplitPortions) (entry : String × ℕ) :
    IncentiveState × List SplitPortions :=
  let (state, portions) := expanded
  let (hotkey, id) := entry
  let result := state.heap (.node id)
  match freeGpuCountOfPartiallyRentedSplit result.toValidatedNode with
  | none => expanded
  | some freeGpuCount =>
    let state := state.write (.remainder id) (freePortion result freeGpuCount)
    let state := state.write (.node id) (rentedPortion result)
    ({ state with
        jobResults := modifyList hotkey (· ++ [.remainder id]) state.jobResults },
      portions ++ [{ hotkey, id }])

def expandPartiallyRentedSplitResults (fleet : Fleet) (state : IncentiveState) :
    IncentiveState × List SplitPortions :=
  fleet.entries.foldl expandResult (state, [])

def mergeResults (merged free : JobResult) : JobResult :=
  let recorded := merged.recordMixedFormulaInputs
    { rentedGpuCount := merged.gpuCount
      freeGpuCount := free.gpuCount
      mining := merged.incentiveFormulaInputs
      unrented := free.incentiveFormulaInputs }
  let restored : JobResult :=
    { recorded with
      gpuCount := merged.gpuCount + (free.gpuCount + free.portUnpaidGpuCount)
      zeroIncentiveReasons := merged.zeroIncentiveReasons ++ free.zeroIncentiveReasons }
  restored.setIncentiveSplit (merged.incentive.getD 0) (free.incentive.getD 0)

def mergePortions (state : IncentiveState) (portions : SplitPortions) : IncentiveState :=
  let free := ResultRef.remainder portions.id
  let merged :=
    mergeResults (state.heap (.node portions.id)) (state.heap free)
  { state.write (.node portions.id) merged with
    jobResults := modifyList portions.hotkey (·.filter (· ≠ free)) state.jobResults }

/-- `RentalPriceIncentive.calculate_mining_scores`. -/
def calculateMiningScores (env : Env) (fleet : Fleet) :
    Raising PyError IncentiveState IncentiveState := do
  let (state, splitPortions) := expandPartiallyRentedSplitResults fleet (.start fleet)
  let state ← scoreJobResults env state
  return splitPortions.foldl mergePortions state

end RentalPrice

end Lium
