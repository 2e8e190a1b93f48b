import Lium.Foundation.PyDict
import Lium.Foundation.PyValue

/-! # Job results

`JobResult` is split in two: what the validation pipeline fills in
(`ValidatedNode`), and the incentive fields that scoring writes on top of it.
Scores, prices and filler revenues are nonnegative rationals; GPU counts are
naturals.
-/

namespace Lium

/-- The part of `ExecutorSSHInfo` that scoring and the duplicate passes read. -/
structure ExecutorSSHInfo where
  uuid : String
  address : String
  port : Int
  sshPort : Int
  pricePerGpu : Option ℚ := none
  sshHostKey : Option String := none
  deriving DecidableEq

structure ValidationEvent where
  reasonCode : String
  checkId : String
  whatWeSaw : List (String × String)
  deriving DecidableEq

/-- Whose default job runs on an idle node. -/
inductive DefaultJobOwner
  | miner
  | lium
  deriving DecidableEq, Repr

/-- A `datetime`. One with a time zone (`aware`) does not compare with one without. -/
structure Datetime where
  time : Int
  aware : Bool := false
deriving DecidableEq

def Datetime.notAfter (first second : Datetime) : Except PyError Bool :=
  if first.aware = second.aware then .ok (first.time ≤ second.time) else .error .typeError

/-- A scored executor as the validation pipeline hands it over. -/
structure ValidatedNode where
  spec : Option (List (String × PyValue)) := none
  executorInfo : ExecutorSSHInfo
  score : ℚ≥0
  jobScore : ℚ≥0
  collateralDeposited : Bool := false
  validationEvent : Option ValidationEvent := none
  gpuModel : Option String := none
  gpuCount : ℕ := 0
  sysboxRuntime : Bool := false
  nvidiaDriverVersion : String := ""
  supportsGpuSplitting : Bool := false
  gpuSplittingMinCount : Option ℕ := none
  isRented : Bool := false
  rentedGpuCount : Option ℕ := none
  isSpot : Bool := false
  isOnSpotPayList : Bool := false
  isNewRentalsPaused : Bool := false
  isInMaintenance : Bool := false
  isProviderBanned : Bool := false
  providerDiscordConnected : Bool := true
  isProviderEmailHeld : Bool := false
  rentalCreatedAt : Option Datetime := none
  defaultJobOwner : Option DefaultJobOwner := none
  hasLiumFiller : Bool := false
  fillerRevenuePerGpuHour : Option ℚ≥0 := none
  fillerRevenueUsdPerHour : Option ℚ≥0 := none
  attestationDigest : Option String := none
  executorImageReport : Option (List (String × PyValue)) := none
  sshHostKeyVerified : Bool := false
  failureReasonCode : Option String := none
  duplicateKeptBy : Option String := none
  duplicateSharesKeptRow : Bool := false

namespace ValidatedNode

def hasGpuModel (node : ValidatedNode) : Bool := node.gpuModel.any (· ≠ "")

def isSuccessful (node : ValidatedNode) : Bool :=
  (0 < node.score || 0 < node.jobScore) && node.hasGpuModel && 0 < node.gpuCount

/-- `self.gpu_splitting_min_count` read as a condition: a count that is set and nonzero. -/
def splitMinCount (node : ValidatedNode) : Option ℕ := node.gpuSplittingMinCount.filter (· ≠ 0)

/-- `result.supports_gpu_splitting and result.gpu_splitting_min_count`. -/
def splits (node : ValidatedNode) : Option ℕ :=
  if node.supportsGpuSplitting then node.splitMinCount else none

theorem gpuCount_pos_of_isSuccessful {node : ValidatedNode}
    (successful : node.isSuccessful = true) : 0 < node.gpuCount := by
  simp only [isSuccessful, Bool.and_eq_true, decide_eq_true_eq] at successful
  exact successful.2

end ValidatedNode

/-- The codes of every reason a validated executor earns nothing. -/
inductive ZeroIncentiveReason
  | bannedNetworkAbuse
  | spotTier
  | providerDiscordNotConnected
  | newRentalsPaused
  | providerMaintenance
  | minerDefaultJob
  | hotkeyExcludedFromScoring
  | gpuModelNotEligibleForUnrentedIncentive
  | priceAboveMarketP90SoftLimit
  | noUnrentedCapacityForGpuCount
  | nvidiaDriverBelowMinimum
  | insufficientDiskForVram
  | sysboxNotEnabled
  | full8xWithoutNcuOrSplit
  | cannotApplyGpuPowerCap
  | outdatedExecutorImage
  | portLimitedRemainder
  | revertsGpuPowerCap
  | spotWithoutLiumFiller
  | spotNoFillerRevenueForGpuConfig
  | spotNoHeadroomAtBurnCap
  | validationFailed
  | providerEmailNotConfirmed
  | rentedSysboxNotConfirmed
  | diskLimitedRemainder
  deriving DecidableEq, Repr

structure CycleFormulaContext where
  rentalShare : Option ℚ
  rentalShareRaw : Option ℚ
  totalBurnEmission : Option ℚ
  burnShare : Option ℚ
  validatorTaoPriceUsd : Option ℚ
  validatorAlphaRateTaoPerBlock : Option ℚ
  estimatedEpochEmissionUsd : Option ℚ
  tempoBlocks : Option ℕ
  secondsPerBlock : Option ℕ
  fixedRatio : Option ℚ

/-- The block published under `mining_v1`. -/
structure MiningFormulaInputs extends CycleFormulaContext where
  score : ℚ≥0
  miningShare : Option ℚ
  miningScore : Option ℚ
  totalMiningScore : Option ℚ
  gpuPortion : Option ℚ
  gpuModel : Option String
  gpuCount : ℕ
  totalGpuCount : Option ℕ
  sysboxMultiplier : Option ℚ
  uptimeMultiplier : Option ℚ
  driverMultiplier : Option ℚ

structure UnbucketedFormulaInputs where
  unbucketedShare : ℚ
  unbucketedRentalCost : Option ℚ
  floorTopUpRate : Option ℚ
  spotPay : Bool

/-- The block published under `rental_price_v2`. -/
structure RentalFormulaInputs extends CycleFormulaContext where
  gpuModel : Option String
  gpuCount : ℕ
  hourlyRate : Option ℚ
  unrentedCapMultiplier : Option ℚ
  sysboxMultiplier : Option ℚ
  driverMultiplier : Option ℚ
  effectiveRate : Option ℚ
  totalRentalCost : Option ℚ
  countBucket : Option ℕ
  bucketReassignedFrom : Option ℕ
  bucketReassignedFromMultiplier : Option ℚ
  maxCap : Option ℕ
  totalUnrentedByGpuType : Option ℕ
  capDilutionApplied : Option Bool
  unbucketed : Option UnbucketedFormulaInputs

/-- What `incentive_formula_inputs` returns. The constructor stands for the version
the same result reports as `incentive_formula_version`. -/
inductive FormulaInputs
  | miningV1 (inputs : MiningFormulaInputs)
  | rentalPriceV2 (inputs : RentalFormulaInputs)
  | mixedV1 (rentedGpuCount freeGpuCount : ℕ) (mining unrented : FormulaInputs)

structure MixedFormulaInputs where
  rentedGpuCount : ℕ
  freeGpuCount : ℕ
  mining : FormulaInputs
  unrented : FormulaInputs

/-- A validated node with the incentive fields of one scoring cycle, all unset until
scoring writes them. -/
structure JobResult extends ValidatedNode where
  isSplitRemainder : Bool := false
  portUnpaidGpuCount : ℕ := 0
  isHotkeyExcludedFromScoring : Bool := false
  miningScore : Option ℚ := none
  sysboxMultiplier : Option ℚ := none
  driverMultiplier : Option ℚ := none
  uptimeMultiplier : Option ℚ := none
  gpuPortion : Option ℚ := none
  totalGpuCount : Option ℕ := none
  incentive : Option ℚ := none
  incentiveRented : Option ℚ := none
  incentiveIdle : Option ℚ := none
  miningShare : Option ℚ := none
  totalMiningScore : Option ℚ := none
  effectiveRate : Option ℚ := none
  hourlyRate : Option ℚ := none
  maxCap : Option ℕ := none
  countBucket : Option ℕ := none
  bucketReassignedFrom : Option ℕ := none
  bucketReassignedFromMultiplier : Option ℚ := none
  totalUnrentedByGpuType : Option ℕ := none
  capDilutionApplied : Option Bool := none
  eligibleForRentalShare : Bool := false
  spotPayCandidate : Bool := false
  spotPoolMultiplier : Option ℚ := none
  unbucketedShare : Option ℚ := none
  unbucketedRentalCost : Option ℚ := none
  floorTopUpRate : Option ℚ := none
  unrentedCapMultiplier : Option ℚ := none
  totalRentalCost : Option ℚ := none
  rentalShare : Option ℚ := none
  rentalShareRaw : Option ℚ := none
  totalBurnEmission : Option ℚ := none
  burnShare : Option ℚ := none
  validatorTaoPriceUsd : Option ℚ := none
  validatorAlphaRateTaoPerBlock : Option ℚ := none
  estimatedEpochEmissionUsd : Option ℚ := none
  tempoBlocks : Option ℕ := none
  secondsPerBlock : Option ℕ := none
  fixedRatio : Option ℚ := none
  zeroIncentiveReasons : List ZeroIncentiveReason := []
  mixedFormulaInputs : Option MixedFormulaInputs := none

variable (result : JobResult) (reasons : List ZeroIncentiveReason)

namespace JobResult

def fresh (node : ValidatedNode) : JobResult := { node with }

/-- `record_incentive_log` for a zero-incentive line; report lines change no field. -/
def recordReason (result : JobResult) (reason : ZeroIncentiveReason) : JobResult :=
  { result with zeroIncentiveReasons := result.zeroIncentiveReasons ++ [reason] }

def recordReasonIf (result : JobResult) (condition : Bool) (reason : ZeroIncentiveReason) :
    JobResult :=
  if condition then result.recordReason reason else result

/-- Keep the two-pool breakdown and `incentive` equal to its sum. -/
def setIncentiveSplit (result : JobResult) (rented idle : ℚ) : JobResult :=
  { result with
    incentiveRented := some rented
    incentiveIdle := some idle
    incentive := some (rented + idle) }

def recordMixedFormulaInputs (result : JobResult) (inputs : MixedFormulaInputs) : JobResult :=
  { result with mixedFormulaInputs := some inputs }

def withReasons (result : JobResult) (reasons : List ZeroIncentiveReason) : JobResult :=
  { result with zeroIncentiveReasons := reasons }

@[simp] theorem withReasons_incentive :
    (result.withReasons reasons).incentive = result.incentive := rfl

@[simp] theorem withReasons_gpuCount :
    (result.withReasons reasons).gpuCount = result.gpuCount := rfl

@[simp] theorem withReasons_eligibleForRentalShare :
    (result.withReasons reasons).eligibleForRentalShare = result.eligibleForRentalShare := rfl

theorem recordReasonIf_eq_withReasons (condition : Bool)
    (reason : ZeroIncentiveReason) :
    ∃ reasons, result.recordReasonIf condition reason = result.withReasons reasons := by
  cases condition
  · exact ⟨result.zeroIncentiveReasons, rfl⟩
  · exact ⟨result.zeroIncentiveReasons ++ [reason], rfl⟩

def paidFromRentalShare (result : JobResult) : Bool :=
  result.eligibleForRentalShare || result.spotPayCandidate

def cycleFormulaContext (result : JobResult) : CycleFormulaContext where
  rentalShare := result.rentalShare
  rentalShareRaw := result.rentalShareRaw
  totalBurnEmission := result.totalBurnEmission
  burnShare := result.burnShare
  validatorTaoPriceUsd := result.validatorTaoPriceUsd
  validatorAlphaRateTaoPerBlock := result.validatorAlphaRateTaoPerBlock
  estimatedEpochEmissionUsd := result.estimatedEpochEmissionUsd
  tempoBlocks := result.tempoBlocks
  secondsPerBlock := result.secondsPerBlock
  fixedRatio := result.fixedRatio

/-- The unbucketed keys, present once `unbucketed_share` has been set. -/
def unbucketedFormulaInputs (result : JobResult) : Option UnbucketedFormulaInputs :=
  result.unbucketedShare.map fun share =>
    { unbucketedShare := share
      unbucketedRentalCost := result.unbucketedRentalCost
      floorTopUpRate := result.floorTopUpRate
      spotPay := result.spotPayCandidate }

def rentalFormulaInputs (result : JobResult) : RentalFormulaInputs where
  toCycleFormulaContext := result.cycleFormulaContext
  gpuModel := result.gpuModel
  gpuCount := result.gpuCount
  hourlyRate := result.hourlyRate
  unrentedCapMultiplier := result.unrentedCapMultiplier
  sysboxMultiplier := result.sysboxMultiplier
  driverMultiplier := result.driverMultiplier
  effectiveRate := result.effectiveRate
  totalRentalCost := result.totalRentalCost
  countBucket := result.countBucket
  bucketReassignedFrom := result.bucketReassignedFrom
  bucketReassignedFromMultiplier := result.bucketReassignedFromMultiplier
  maxCap := result.maxCap
  totalUnrentedByGpuType := result.totalUnrentedByGpuType
  capDilutionApplied := result.capDilutionApplied
  unbucketed := result.unbucketedFormulaInputs

def miningFormulaInputs (result : JobResult) : MiningFormulaInputs where
  toCycleFormulaContext := result.cycleFormulaContext
  score := result.score
  miningShare := result.miningShare
  miningScore := result.miningScore
  totalMiningScore := result.totalMiningScore
  gpuPortion := result.gpuPortion
  gpuModel := result.gpuModel
  gpuCount := result.gpuCount
  totalGpuCount := result.totalGpuCount
  sysboxMultiplier := result.sysboxMultiplier
  uptimeMultiplier := result.uptimeMultiplier
  driverMultiplier := result.driverMultiplier

/-- `incentive_formula_version` and `incentive_formula_inputs` in one value. -/
def incentiveFormulaInputs (result : JobResult) : FormulaInputs :=
  match result.mixedFormulaInputs with
  | some mixed =>
    .mixedV1 mixed.rentedGpuCount mixed.freeGpuCount mixed.mining mixed.unrented
  | none =>
    if result.paidFromRentalShare then .rentalPriceV2 result.rentalFormulaInputs
    else .miningV1 result.miningFormulaInputs

end JobResult

end Lium
