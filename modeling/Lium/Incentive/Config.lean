import Lium.Incentive.JobResult
import Mathlib.Data.List.Lex

/-! # Configuration of a scoring cycle

Everything a cycle reads besides the job results: the incentive configuration, the
validator's settings, the shared configuration, Redis, the fetched prices and the
clock. Prices, GPU portions and caps are nonnegative by type.
-/

namespace Lium

def tempo : ℕ := 360
def secondsPerBlock : ℕ := 12
def fixedRatio : ℚ := 41 / 100

/-- `BASE_GPU_MAP`: the family each GPU model is capped and priced with. -/
def baseGpuMap : List (String × String) := [
  ("NVIDIA B300 SXM6 AC", "B300"),
  ("NVIDIA B200", "B200"),
  ("NVIDIA H200", "H200"),
  ("NVIDIA H200 NVL", "H200"),
  ("NVIDIA H100 80GB HBM3", "H100"),
  ("NVIDIA H100 NVL", "H100"),
  ("NVIDIA H100 PCIe", "H100"),
  ("NVIDIA H800 80GB HBM3", "H800"),
  ("NVIDIA H800 NVL", "H800"),
  ("NVIDIA H800 PCIe", "H800"),
  ("NVIDIA GeForce RTX 5090", "RTX 5090"),
  ("NVIDIA GeForce RTX 5090 D", "RTX 5090 D"),
  ("NVIDIA GeForce RTX 5080", "RTX 5080"),
  ("NVIDIA GeForce RTX 5070 Ti", "RTX 5070 Ti"),
  ("NVIDIA GeForce RTX 5070", "RTX 5070"),
  ("NVIDIA GeForce RTX 5060 Ti", "RTX 5060 Ti"),
  ("NVIDIA GeForce RTX 5060", "RTX 5060"),
  ("NVIDIA GeForce RTX 4090", "RTX 4090"),
  ("NVIDIA GeForce RTX 4090 D", "RTX 4090"),
  ("NVIDIA GeForce RTX 4080 SUPER", "RTX 4080 SUPER"),
  ("NVIDIA GeForce RTX 4080", "RTX 4080"),
  ("NVIDIA GeForce RTX 4070 Ti", "RTX 4070 Ti"),
  ("NVIDIA GeForce RTX 4070 Ti SUPER", "RTX 4070 Ti SUPER"),
  ("NVIDIA GeForce RTX 4070 SUPER", "RTX 4070 SUPER"),
  ("NVIDIA GeForce RTX 4070", "RTX 4070"),
  ("NVIDIA GeForce RTX 4060 Ti", "RTX 4060 Ti"),
  ("NVIDIA GeForce RTX 4060", "RTX 4060"),
  ("NVIDIA RTX 4000 Ada Generation", "RTX 4000 Ada Generation"),
  ("NVIDIA RTX PRO 2000 Blackwell", "RTX PRO 2000"),
  ("NVIDIA RTX PRO 4000 Blackwell", "RTX PRO 4000"),
  ("NVIDIA RTX PRO 4500 Blackwell", "RTX PRO 4500"),
  ("NVIDIA RTX PRO 4500 Blackwell Server Edition", "RTX PRO 4500"),
  ("NVIDIA RTX PRO 5000 Blackwell", "RTX PRO 5000"),
  ("NVIDIA RTX 4500 Ada Generation", "RTX 4500 Ada Generation"),
  ("NVIDIA RTX 5000 Ada Generation", "RTX 5000 Ada Generation"),
  ("NVIDIA RTX 5880 Ada Generation", "RTX 5880 Ada Generation"),
  ("NVIDIA RTX 6000 Ada Generation", "RTX 6000 Ada Generation"),
  ("NVIDIA RTX PRO 6000 Blackwell Server Edition", "RTX PRO 6000"),
  ("NVIDIA RTX PRO 6000 Blackwell Workstation Edition", "RTX PRO 6000"),
  ("NVIDIA RTX PRO 6000 Blackwell Max-Q Workstation Edition", "RTX PRO 6000"),
  ("NVIDIA RTX PRO 6000D Blackwell Workstation Edition", "RTX PRO 6000D"),
  ("NVIDIA RTX 6000D", "RTX PRO 6000D"),
  ("NVIDIA L4", "L4"),
  ("NVIDIA L40S", "L40S"),
  ("NVIDIA L40", "L40"),
  ("NVIDIA RTX 2000 Ada Generation", "RTX 2000 Ada Generation"),
  ("NVIDIA A100 80GB PCIe", "A100"),
  ("NVIDIA A100-SXM4-80GB", "A100"),
  ("NVIDIA A100-PCIE-40GB", "A100 40GB"),
  ("NVIDIA A100-SXM4-40GB", "A100 40GB"),
  ("NVIDIA A800 80GB PCIe", "A800"),
  ("NVIDIA CMP 170HX", "CMP 170HX"),
  ("NVIDIA A10 Tensor Core GPU", "A10"),
  ("NVIDIA RTX A6000", "RTX A6000"),
  ("NVIDIA RTX A5000", "RTX A5000"),
  ("NVIDIA RTX A4500", "RTX A4500"),
  ("NVIDIA RTX A4000", "RTX A4000"),
  ("NVIDIA RTX A2000", "RTX A2000"),
  ("NVIDIA A40", "A40"),
  ("NVIDIA A30", "A30"),
  ("NVIDIA T4 Tensor Core GPU", "T4"),
  ("NVIDIA Tesla V100 Tensor Core GPU", "V100"),
  ("NVIDIA TITAN V", "TITAN V"),
  ("NVIDIA GeForce RTX 3090 Ti", "RTX 3090 Ti"),
  ("NVIDIA GeForce RTX 3090", "RTX 3090"),
  ("NVIDIA GeForce RTX 3080 Ti", "RTX 3080 Ti"),
  ("NVIDIA GeForce RTX 3080", "RTX 3080"),
  ("NVIDIA GeForce RTX 3070 Ti", "RTX 3070 Ti"),
  ("NVIDIA GeForce RTX 3070", "RTX 3070"),
  ("NVIDIA GeForce RTX 3060 Ti", "RTX 3060 Ti"),
  ("NVIDIA GeForce RTX 3060 Laptop GPU", "RTX 3060 Laptop"),
  ("NVIDIA GeForce RTX 3060", "RTX 3060"),
  ("NVIDIA GeForce RTX 3050", "RTX 3050"),
  ("NVIDIA Quadro RTX 8000", "Quadro RTX 8000"),
  ("NVIDIA Quadro RTX 6000", "Quadro RTX 6000"),
  ("NVIDIA Quadro RTX 5000", "Quadro RTX 5000"),
  ("NVIDIA TITAN RTX", "TITAN RTX"),
  ("NVIDIA GeForce RTX 2080 Ti", "RTX 2080 Ti"),
  ("NVIDIA GeForce RTX 2080 SUPER", "RTX 2080 SUPER"),
  ("NVIDIA GeForce RTX 2070 SUPER", "RTX 2070 SUPER"),
  ("NVIDIA GeForce RTX 2060 SUPER", "RTX 2060 SUPER"),
  ("NVIDIA GeForce RTX 2060", "RTX 2060"),
  ("NVIDIA GeForce GTX 1660 Ti", "GTX 1660 Ti"),
  ("NVIDIA GeForce GTX 1660 SUPER", "GTX 1660 SUPER"),
  ("NVIDIA GeForce GTX 1660", "GTX 1660"),
  ("NVIDIA Tesla P100", "Tesla P100"),
  ("NVIDIA Tesla P40", "Tesla P40"),
  ("NVIDIA Quadro P4000", "Quadro P4000"),
  ("NVIDIA TITAN Xp", "TITAN Xp"),
  ("NVIDIA GeForce GTX 1080 Ti", "GTX 1080 Ti"),
  ("NVIDIA GeForce GTX 1080", "GTX 1080"),
  ("NVIDIA GeForce GTX 1070 Ti", "GTX 1070 Ti"),
  ("NVIDIA GeForce GTX 1070", "GTX 1070"),
  ("NVIDIA GeForce GTX 1060", "GTX 1060"),
  ("NVIDIA Tesla M40", "Tesla M40"),
  ("NVIDIA B300 SXM6 PC", "B300"),
  ("NVIDIA GB300", "GB300"),
  ("NVIDIA GeForce RTX 4090 48GB", "RTX 4090 48GB")]

def getBaseModelForGpu (gpuModel : Option String) : Except PyError String :=
  match gpuModel.bind (baseGpuMap.lookup ·) with
  | some baseModel => .ok baseModel
  | none => .error .keyError

/-- `gpu_model in BASE_GPU_MAP`. -/
def knownGpuModel (gpuModel : Option String) : Bool :=
  (gpuModel.bind (baseGpuMap.lookup ·)).isSome

theorem getBaseModelForGpu_ok_iff (gpuModel : Option String) :
    (∃ baseModel, getBaseModelForGpu gpuModel = .ok baseModel) ↔
      knownGpuModel gpuModel = true := by
  unfold getBaseModelForGpu knownGpuModel
  cases gpuModel.bind (baseGpuMap.lookup ·) <;> simp

/-- A price of the custom table: a number, or the default price times a multiplier. -/
inductive CustomPrice
  | price (value : ℚ≥0)
  | defaultPrice (multiplier : ℚ≥0)

structure IncentiveConfig where
  rentalIncentiveGpuTypes : List String
  maxUnrentedGpus : PyDict String (PyDict ℕ ℕ)
  rentalPricesPerHour : PyDict String ℚ≥0
  gpuCountCustomPrices : PyDict String (PyDict String CustomPrice)

namespace IncentiveConfig

/-- `max_unrented_gpus.get(base_model, {})`. -/
def capSpec (config : IncentiveConfig) (baseModel : String) : PyDict ℕ ℕ :=
  config.maxUnrentedGpus.getD baseModel .empty

/-- `max_unrented_gpus.get(base_model, {}).get(bucket, 0)`. -/
def cap (config : IncentiveConfig) (baseModel : String) (bucket : ℕ) : ℕ :=
  (config.capSpec baseModel).getD bucket 0

end IncentiveConfig

def getHourlyRate (gpuModel : String) (gpuCount : ℕ)
    (customPrices : PyDict String (PyDict String CustomPrice))
    (defaultPrices : PyDict String ℚ≥0) : ℚ≥0 :=
  match (customPrices.get? gpuModel).or (customPrices.get? "*") with
  | none => 0
  | some gpuConfig =>
    match (gpuConfig.get? (toString gpuCount)).or (gpuConfig.get? "*") with
    | none => 0
    | some (.defaultPrice multiplier) => defaultPrices.getD gpuModel 0 * multiplier
    | some (.price value) => value

structure Portion where
  value : ℚ
  nonneg : 0 ≤ value
  le_one : value ≤ 1

structure Settings where
  executorImageCheckEnforce : Bool := false
  enableSpotRentalIncentive : Bool := false
  spotIdlePaySecureDecisionEnabled : Bool := false
  enableUnrentedPowerCapRevertLimit : Bool := false
  rtx4090With48GbModelEnabled : Bool := false
  skipCollateralPenalty : Bool := true
  discordIncentiveCutoff : Int
  sysboxRentedCutoff : Datetime
  minDriverCutoff : Int
  minNvidiaDriverVersion : String := "580.65.06"
  portionForUptime : Portion
  uptimeRequiredMinutes : ℕ
  uptimeRequiredPositive : 0 < uptimeRequiredMinutes
  portionForSysbox : Portion
  portionForSysboxUnrented : Portion
  portionForSysboxRented : Portion
  scoringExcludedHotkeys : String := ""
  idleIncentiveExcludedHotkeys : String := ""

structure SharedConfig where
  machinePricesP90 : PyDict String ℚ
  softLimitPriceRate : ℚ
  totalBurnEmission : ℚ

/-- The packaged default of `total_burn_emission`. -/
def defaultTotalBurnEmission : ℚ := 91 / 100

/-- `get_total_burn_emission`: a served value out of range falls back to the default. -/
def SharedConfig.getTotalBurnEmission (shared : SharedConfig) : ℚ :=
  if 0 ≤ shared.totalBurnEmission ∧ shared.totalBurnEmission ≤ 1 then shared.totalBurnEmission
  else defaultTotalBurnEmission

theorem SharedConfig.getTotalBurnEmission_mem (shared : SharedConfig) :
    0 ≤ shared.getTotalBurnEmission ∧ shared.getTotalBurnEmission ≤ 1 := by
  unfold getTotalBurnEmission
  split_ifs with inRange
  · exact inRange
  · norm_num [defaultTotalBurnEmission]

structure GpuPowerCapRevert where
  cappedToWatts : Int
  foundWatts : Int

structure RedisService where
  portionPerGpuType : String → ℚ≥0
  executorUptime : ExecutorSSHInfo → ℕ
  gpuPowerCapReverts : String → List GpuPowerCapRevert

structure PriceProvider where
  taoPrice : Option ℚ
  alphaRate : Option ℚ

structure Env where
  runtime : PyRuntime
  config : IncentiveConfig
  settings : Settings
  shared : SharedConfig
  redis : RedisService
  prices : PriceProvider
  now : Int
  totalGpuModelCountMap : PyDict String ℕ

namespace Env

def withDenominators (env : Env) (totalGpuModelCountMap : PyDict String ℕ) : Env :=
  { env with totalGpuModelCountMap }

def hotkeysOf (env : Env) (text : String) : List String :=
  ((env.runtime.split "," text).map env.runtime.strip).filter (· ≠ "")

def getScoringExcludedHotkeys (env : Env) : List String :=
  env.hotkeysOf env.settings.scoringExcludedHotkeys

def getIdleIncentiveExcludedHotkeys (env : Env) : List String :=
  env.hotkeysOf env.settings.idleIncentiveExcludedHotkeys

def parseDriverVersion (env : Env) (value : String) : Option (List Int) :=
  if value = "" then none
  else (env.runtime.split "." (env.runtime.strip value)).mapM env.runtime.intOfText

def getMinDriverMultiplier (env : Env) (driverVersion : String) (isRented : Bool := false) : ℚ :=
  if isRented then 1
  else
    match env.parseDriverVersion driverVersion,
      env.parseDriverVersion env.settings.minNvidiaDriverVersion with
    | some reported, some required =>
      if required ≤ reported then 1
      else if env.now < env.settings.minDriverCutoff then 1
      else 0
    | _, _ => 1

/-- `1.0 if result.sysbox_runtime else 1 - settings.PORTION_FOR_SYSBOX_UNRENTED`. -/
def unrentedSysboxMultiplier (env : Env) (sysboxRuntime : Bool) : ℚ :=
  if sysboxRuntime then 1 else 1 - env.settings.portionForSysboxUnrented.value

def isMissingDiscordAfterCutoff (env : Env) (result : JobResult) : Bool :=
  env.settings.discordIncentiveCutoff ≤ env.now && !result.providerDiscordConnected

def earnsSpotRentalIncentive (env : Env) (result : JobResult) : Bool :=
  env.settings.enableSpotRentalIncentive && result.isSpot && result.isOnSpotPayList &&
    result.isRented && !result.isSplitRemainder

theorem getMinDriverMultiplier_nonneg (env : Env) (driverVersion : String) (isRented : Bool) :
    0 ≤ env.getMinDriverMultiplier driverVersion isRented := by
  unfold getMinDriverMultiplier
  repeat' split
  all_goals norm_num

theorem unrentedSysboxMultiplier_nonneg (env : Env) (sysboxRuntime : Bool) :
    0 ≤ env.unrentedSysboxMultiplier sysboxRuntime := by
  unfold unrentedSysboxMultiplier
  split_ifs
  · exact zero_le_one
  · exact sub_nonneg.mpr env.settings.portionForSysboxUnrented.le_one

end Env

end Lium
