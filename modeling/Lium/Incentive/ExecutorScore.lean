import Lium.Incentive.Gates

/-! # Scoring one executor

`calculate_executor_score` decides which pool a result is paid from: mining, the
rental share, the unbucketed share (idle spot nodes), or none.
-/

namespace Lium

def spotRentalIncentiveFactor : ℚ := 1 / 2

namespace Scoring

/-! ## Recorded reasons -/

def hasOutdatedImage (env : Env) (result : JobResult) : Bool :=
  env.settings.executorImageCheckEnforce &&
    match PyValue.field (result.executorImageReport.getD []) "status" with
    | .str status => status = "OUTDATED"
    | _ => false

def recordOutdatedImageReason (env : Env) (result : JobResult) : JobResult :=
  result.recordReasonIf
    (hasOutdatedImage env result && .outdatedExecutorImage ∉ result.zeroIncentiveReasons)
    .outdatedExecutorImage

def unclassifiedValidationFailure : String := "PIPELINE_VALIDATION_ERROR"
def runEndedWithoutFailing : List String := ["VALIDATION_COMPLETED", "RENTED"]
def executorImageOutdated : String := "EXECUTOR_IMAGE_OUTDATED"

def validationFailureCode (result : JobResult) : String :=
  ((result.failureReasonCode.filter (· ≠ "")).or
    ((result.validationEvent.map ValidationEvent.reasonCode).filter (· ≠ ""))).getD
      unclassifiedValidationFailure

def recordValidationFailedReason (result : JobResult) : JobResult :=
  let reasonCode := validationFailureCode result
  result.recordReasonIf
    (!result.isSuccessful && reasonCode ∉ runEndedWithoutFailing &&
      !(reasonCode = executorImageOutdated &&
        .outdatedExecutorImage ∈ result.zeroIncentiveReasons))
    .validationFailed

def recordZeroDriverAndSysboxReasons (driverMultiplier sysboxMultiplier : ℚ)
    (result : JobResult) : JobResult :=
  (result.recordReasonIf (driverMultiplier = 0) .nvidiaDriverBelowMinimum).recordReasonIf
    (sysboxMultiplier = 0) .sysboxNotEnabled

/-! ## Hard exclusions -/

def onSpotPayPath (result : JobResult) : Bool :=
  result.isSpot && result.isOnSpotPayList && !result.isRented && !result.isSplitRemainder

def reasonIf (condition : Bool) (reason : ZeroIncentiveReason) : List ZeroIncentiveReason :=
  if condition then [reason] else []

def reasonsExcludedFromBothPools (env : Env) (result : JobResult) : List ZeroIncentiveReason :=
  reasonIf result.isProviderBanned .bannedNetworkAbuse ++
  reasonIf (result.isSpot && !(onSpotPayPath result || env.earnsSpotRentalIncentive result))
    .spotTier ++
  (if result.isProviderEmailHeld then [.providerEmailNotConfirmed]
    else reasonIf (env.isMissingDiscordAfterCutoff result) .providerDiscordNotConnected) ++
  reasonIf (result.isNewRentalsPaused && !result.isRented) .newRentalsPaused ++
  reasonIf result.isInMaintenance .providerMaintenance ++
  reasonIf (result.defaultJobOwner = some .miner && !result.isRented) .minerDefaultJob ++
  reasonIf result.isHotkeyExcludedFromScoring .hotkeyExcludedFromScoring

def recordReasons (result : JobResult) (reasons : List ZeroIncentiveReason) : JobResult :=
  reasons.foldl JobResult.recordReason result

/-! ## The idle-pool gates -/

structure Candidacy where
  result : JobResult
  idlePoolCandidate : Bool
  eligible : Bool

namespace Candidacy

def block (state : Candidacy) (reason : ZeroIncentiveReason) : Candidacy :=
  { state with result := state.result.recordReason reason, eligible := false }

def withhold (state : Candidacy) (gpuCount : ℕ) (reason : ZeroIncentiveReason) : Candidacy :=
  { state with
    result := JobResult.recordReason
      { state.result with
        gpuCount := state.result.gpuCount - gpuCount
        portUnpaidGpuCount := state.result.portUnpaidGpuCount + gpuCount } reason }

end Candidacy

def applyPortLimit (state : Candidacy) : Raising PyError JobResult Candidacy := do
  let limited ← Raising.atState state.result
    (if state.idlePoolCandidate then Gates.portLimitedRemainder state.result else .ok none)
  return match limited with
    | none => state
    | some limited =>
      if limited.paidSplitCount = 0 then state.block .portLimitedRemainder
      else state.withhold limited.unpaidGpuCount .portLimitedRemainder

def applyDiskLimit (state : Candidacy) : Candidacy :=
  let limited :=
    if state.idlePoolCandidate then Gates.diskLimitedRemainder state.result else none
  match limited with
  | none => state
  | some limited =>
    if limited.paidSplitCount = 0 then state.block .diskLimitedRemainder
    else
      state.withhold (limited.unpaidGpuCount - state.result.portUnpaidGpuCount)
        .diskLimitedRemainder

def shouldRunIdlePoolGate (idlePoolCandidate eligible enforced : Bool) : Bool :=
  eligible || (idlePoolCandidate && enforced)

/-- One gate: a node it measures as failing forfeits the idle pay, if it is enforced. -/
def idlePoolGate {measured : Type} (enforced : Bool) (reason : ZeroIncentiveReason)
    (measure : JobResult → Except PyError (Option measured)) (state : Candidacy) :
    Raising PyError JobResult Candidacy := do
  let failing ← Raising.atState state.result
    (if shouldRunIdlePoolGate state.idlePoolCandidate state.eligible enforced then
      measure state.result
    else .ok none)
  return if failing.isSome && enforced then state.block reason else state

def softPriceGate (env : Env) : Candidacy → Raising PyError JobResult Candidacy :=
  idlePoolGate true .priceAboveMarketP90SoftLimit
    fun result => .ok (if Gates.isOverSoftPriceLimit env result then some () else none)

def diskGate (env : Env) : Candidacy → Raising PyError JobResult Candidacy :=
  idlePoolGate true .insufficientDiskForVram (Gates.insufficientDisk env.runtime)

def full8xGate (baseModel : String) : Candidacy → Raising PyError JobResult Candidacy :=
  idlePoolGate true .full8xWithoutNcuOrSplit (Gates.missingFull8xCapability baseModel)

def powerCapGate (env : Env) : Candidacy → Raising PyError JobResult Candidacy :=
  idlePoolGate true .cannotApplyGpuPowerCap fun result =>
    .ok (Gates.powerCapIncapable env.runtime result)

def powerCapRevertGate (env : Env) : Candidacy → Raising PyError JobResult Candidacy :=
  idlePoolGate env.settings.enableUnrentedPowerCapRevertLimit .revertsGpuPowerCap fun result =>
    .ok (Gates.powerCapReverted env.redis result)

/-- All the gates, in the order the code runs them. -/
def runIdlePoolGates (env : Env) (baseModel : String) (state : Candidacy) :
    Raising PyError JobResult Candidacy := do
  let state ← applyPortLimit state
  let state ← softPriceGate env (applyDiskLimit state)
  let state ← diskGate env state
  let state ← full8xGate baseModel state
  let state ← powerCapGate env state
  powerCapRevertGate env state

/-! ## Spot nodes -/

def outOfPools (result : JobResult) : JobResult :=
  { result with eligibleForRentalShare := false, miningScore := some 0 }

def qualifySpotNode (result : JobResult) (excludedFromBothPools : Bool) : JobResult :=
  let result := outOfPools result
  if excludedFromBothPools || !(0 < result.score || 0 < result.jobScore) then result
  else if !result.hasLiumFiller then result.recordReason .spotWithoutLiumFiller
  else if result.fillerRevenuePerGpuHour.isNone then
    result.recordReason .spotNoFillerRevenueForGpuConfig
  else { result with spotPayCandidate := true }

def qualifySpotNodeByTheSecureDecision (result : JobResult) : JobResult :=
  let result := outOfPools result
  if result.fillerRevenuePerGpuHour.isNone then
    result.recordReason .spotNoFillerRevenueForGpuConfig
  else { result with spotPayCandidate := true }

/-! ## The mining score -/

def isRentedAfterCutoff (env : Env) (result : JobResult) : Except PyError Bool :=
  match result.rentalCreatedAt with
  | some created =>
    if result.isRented then env.settings.sysboxRentedCutoff.notAfter created else .ok false
  | none => .ok false

/-- The multiplier of a result whose rental time compares with the cutoff. -/
def rentedSysboxMultiplier (env : Env) (result : JobResult) : ℚ :=
  if result.sysboxRuntime then 1
  else
    match isRentedAfterCutoff env result with
    | .ok true => 1 - env.settings.portionForSysboxRented.value
    | _ => 1 - env.settings.portionForSysbox.value

def uptimeMultiplierOf (env : Env) (result : JobResult) : ℚ :=
  if env.settings.skipCollateralPenalty || result.collateralDeposited then 1
  else
    let portion := env.settings.portionForUptime.value
    let uptimeInMinutes : ℚ := env.redis.executorUptime result.executorInfo
    1 - portion + portion * min 1 (uptimeInMinutes / env.settings.uptimeRequiredMinutes)

/-- The mining score of a rented executor among `totalGpuCount` GPUs of its model. -/
def miningScoreOf (env : Env) (spotRentalFactor : ℚ) (totalGpuCount : ℕ)
    (result : JobResult) : ℚ :=
  let gpuPortion : ℚ := env.redis.portionPerGpuType (result.gpuModel.getD "")
  let driverMultiplier := env.getMinDriverMultiplier result.nvidiaDriverVersion result.isRented
  result.score * gpuPortion * result.gpuCount / totalGpuCount *
    (rentedSysboxMultiplier env result * uptimeMultiplierOf env result * driverMultiplier *
      spotRentalFactor)

/-- `DefaultIncentive.calculate_executor_score`, with the factor its `_spot_rental_factor`
hook returns, for a result whose rental time compares with the cutoff. -/
def defaultExecutorScore (env : Env) (spotRentalFactor : ℚ) (result : JobResult) : JobResult :=
  if hasOutdatedImage env result then
    { recordOutdatedImageReason env result with miningScore := some 0 }
  else if result.isHotkeyExcludedFromScoring then
    { result.recordReasonIf (.hotkeyExcludedFromScoring ∉ result.zeroIncentiveReasons)
        .hotkeyExcludedFromScoring with miningScore := some 0 }
  else if result.score = 0 then { result with miningScore := some 0 }
  else if result.isInMaintenance || (result.isNewRentalsPaused && !result.isRented) then
    { result with miningScore := some 0 }
  else
    let gpuModel := result.gpuModel.getD ""
    let totalGpuCount := env.totalGpuModelCountMap.getD gpuModel 0
    if totalGpuCount = 0 then
      { result with totalGpuCount := some totalGpuCount, miningScore := some 0 }
    else
      let sysboxMultiplier := rentedSysboxMultiplier env result
      let scored : JobResult :=
        { result with
          totalGpuCount := some totalGpuCount
          gpuPortion := some (env.redis.portionPerGpuType gpuModel : ℚ≥0)
          sysboxMultiplier := some sysboxMultiplier
          driverMultiplier :=
            some (env.getMinDriverMultiplier result.nvidiaDriverVersion result.isRented)
          uptimeMultiplier := some (uptimeMultiplierOf env result)
          miningScore := some (miningScoreOf env spotRentalFactor totalGpuCount result) }
      scored.recordReasonIf (result.isRented && sysboxMultiplier = 0) .rentedSysboxNotConfirmed

/-- Whether `defaultExecutorScore` comes to the comparison with the cutoff. -/
def comesToCutoff (env : Env) (result : JobResult) : Bool :=
  !hasOutdatedImage env result && !result.isHotkeyExcludedFromScoring && result.score ≠ 0 &&
    !(result.isInMaintenance || (result.isNewRentalsPaused && !result.isRented)) &&
    env.totalGpuModelCountMap.getD (result.gpuModel.getD "") 0 ≠ 0

/-- What is assigned before the comparison with the cutoff. -/
def baseScored (env : Env) (result : JobResult) : JobResult :=
  let gpuModel := result.gpuModel.getD ""
  let totalGpuCount := env.totalGpuModelCountMap.getD gpuModel 0
  let gpuPortion : ℚ≥0 := env.redis.portionPerGpuType gpuModel
  { result with
    totalGpuCount := some totalGpuCount
    gpuPortion := some gpuPortion
    miningScore := some (result.score * gpuPortion * result.gpuCount / totalGpuCount) }

def spotRentalFactor (env : Env) (result : JobResult) : ℚ :=
  if env.earnsSpotRentalIncentive result then spotRentalIncentiveFactor else 1

/-! ## Choosing the pool -/

def isIdlePoolCandidate (env : Env) (baseModel : String) (result : JobResult) : Bool :=
  !result.isRented && baseModel ∈ env.config.rentalIncentiveGpuTypes &&
    (0 < result.score || 0 < result.jobScore)

def recordBlockedReasons (env : Env) (state : Candidacy) : JobResult :=
  if state.idlePoolCandidate && !state.eligible then
    recordZeroDriverAndSysboxReasons
      (env.getMinDriverMultiplier state.result.nvidiaDriverVersion)
      (env.unrentedSysboxMultiplier state.result.sysboxRuntime) state.result
  else state.result

def choosePool (env : Env) (baseModel : String) (excludedFromBothPools eligible : Bool)
    (result : JobResult) : JobResult :=
  if onSpotPayPath result && eligible then qualifySpotNodeByTheSecureDecision result
  else
    let result := { result with eligibleForRentalShare := eligible }
    if eligible then { result with miningScore := some 0 }
    else if !result.isRented then
      JobResult.recordReasonIf { result with miningScore := some 0 }
        (baseModel ∉ env.config.rentalIncentiveGpuTypes &&
          (0 < result.score || 0 < result.jobScore))
        .gpuModelNotEligibleForUnrentedIncentive
    else if excludedFromBothPools then { result with miningScore := some 0 }
    else defaultExecutorScore env (spotRentalFactor env result) result

/-- The pool of a result. Only a rented one goes on to the mining score, where a rental time
that does not compare with the cutoff raises. -/
def scoreInPool (env : Env) (baseModel : String) (excludedFromBothPools eligible : Bool)
    (result : JobResult) : Raising PyError JobResult JobResult := do
  if result.isRented && !eligible && !excludedFromBothPools && comesToCutoff env result then
    let _ ← Raising.atState (baseScored env { result with eligibleForRentalShare := false })
      (isRentedAfterCutoff env result)
  return choosePool env baseModel excludedFromBothPools eligible result

def calculateExecutorScore (env : Env) (result : JobResult) :
    Raising PyError JobResult JobResult :=
  let excludedForOutdatedImage := hasOutdatedImage env result
  let result := recordOutdatedImageReason env result
  let exclusions := reasonsExcludedFromBothPools env result
  let result := recordReasons result exclusions
  let excludedFromBothPools := excludedForOutdatedImage || !exclusions.isEmpty
  if onSpotPayPath result && !env.settings.spotIdlePaySecureDecisionEnabled then
    .ok (qualifySpotNode result excludedFromBothPools)
  else if excludedFromBothPools && !knownGpuModel result.gpuModel then
    .ok (outOfPools result)
  else do
    let baseModel ← Raising.atState result (getBaseModelForGpu result.gpuModel)
    let candidate := isIdlePoolCandidate env baseModel result
    let state ← runIdlePoolGates env baseModel
      { result, idlePoolCandidate := candidate, eligible := candidate && !excludedFromBothPools }
    scoreInPool env baseModel excludedFromBothPools state.eligible
      (recordBlockedReasons env state)

end Scoring

end Lium
