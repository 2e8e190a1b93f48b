import Lium.Foundation.Outcome
import Lium.Incentive.Config

/-! # Idle-pool gates

The measurements an idle executor is judged by. Most of what they read is the machine
scrape, written on the provider's machine, so a missing or mistyped reading mostly
means "not measured". The readings that raise instead are the ones `Except` is for.
-/

namespace Lium

def minDiskToVramRate : ℚ := 3 / 2
def full8xCapabilityBaseModels : List String := ["H200", "B200", "B300", "GB300"]
def full8xCapabilityGpuCount : ℕ := 8
def ncuProfilingUnrestricted : String := "unrestricted"
def capSysAdminBit : ℕ := 21
def nvidiactlRootUid : Int := 0
def minPowerCapRevertsToPenalize : ℕ := 2
def capRevertWindowSeconds : ℕ := 24 * 3600
def minPortCount : Int := 3

structure InsufficientDisk where
  vramGb : ℚ
  diskGb : ℚ
  rate : ℚ

structure MissingFull8xCapability where
  ncuProfilingAccess : Option String
  ncuProfilingScrapeError : Option String

structure PowerCapIncapable where
  containerCapEff : String
  nvidiactlOwnerUid : Int

structure PowerCapReverted where
  revertCount : ℕ
  windowHours : ℕ
  cappedToWatts : Int
  foundWatts : Int

structure PortLimitedRemainder where
  availablePortCount : Int
  requiredPortCount : Int
  freeSplitCount : ℕ
  paidSplitCount : ℕ
  unpaidGpuCount : ℕ

structure DiskLimitedRemainder where
  freeSplitCount : ℕ
  paidSplitCount : ℕ
  unpaidGpuCount : ℕ

namespace Gates

/-- `_is_over_soft_price_limit`. An absent or zero price, like an absent or zero p90,
is no verdict. -/
def isOverSoftPriceLimit (env : Env) (result : JobResult) : Bool :=
  match result.executorInfo.pricePerGpu.filter (· ≠ 0),
    (result.gpuModel.bind env.shared.machinePricesP90.get?).filter (· ≠ 0) with
  | some pricePerGpu, some p90 => p90 * env.shared.softLimitPriceRate < pricePerGpu
  | _, _ => false

/-- Total GPU memory and total disk of a scrape, in gigabytes. -/
def measureDisk (runtime : PyRuntime) (spec : List (String × PyValue)) :
    Except PyError (ℚ × ℚ) := do
  let gpu := (PyValue.field spec "gpu").orElse (.dict [])
  let details := (← gpu.get "details").orElse (.list [])
  let capacities ← (← details.iterate).mapM fun gpu => do
    ((← gpu.get "capacity").orElse (.int 0)).toFloat runtime
  let hardDisk := (PyValue.field spec "hard_disk").orElse (.dict [])
  let total ← ((← hardDisk.get "total").orElse (.int 0)).toFloat runtime
  return (capacities.sum / 1024, total / 1024 ^ 2)

/-- The exceptions `_insufficient_disk` catches around its readings. -/
def unreadableScrape : PyError → Bool
  | .attributeError => true
  | .typeError => true
  | .valueError => true
  | _ => false

def insufficientDisk (runtime : PyRuntime) (result : JobResult) :
    Except PyError (Option InsufficientDisk) :=
  match result.spec with
  | none => .ok none
  | some [] => .ok none
  | some spec =>
    match measureDisk runtime spec with
    | .error error => if unreadableScrape error then .ok none else .error error
    | .ok (vramGb, diskGb) =>
      if vramGb ≤ 0 ∨ diskGb ≤ 0 then .ok none
      else if roundTenths vramGb * minDiskToVramRate ≤ roundTenths diskGb then .ok none
      else .ok (some ⟨roundTenths vramGb, roundTenths diskGb, minDiskToVramRate⟩)

/-- A `str | None` field of a validated model: any other value is rejected. -/
def optionalText : PyValue → Except PyError (Option String)
  | .none => .ok none
  | .str text => .ok (some text)
  | _ => .error .validationError

def hasRealSplitting (result : JobResult) : Bool :=
  result.splits.any (· < result.gpuCount)

def missingFull8xCapability (baseModel : String) (result : JobResult) :
    Except PyError (Option MissingFull8xCapability) :=
  if result.gpuCount ≠ full8xCapabilityGpuCount then .ok none
  else if baseModel ∉ full8xCapabilityBaseModels then .ok none
  else
    match result.spec with
    | none => .ok none
    | some spec =>
      let unrestricted :=
        match PyValue.field spec "ncu_profiling_access" with
        | .str text => text = ncuProfilingUnrestricted
        | _ => false
      if unrestricted || hasRealSplitting result || result.attestationDigest.isSome then
        .ok none
      else do
        let access ← optionalText (PyValue.field spec "ncu_profiling_access")
        let scrapeError ← optionalText (PyValue.field spec "ncu_profiling_scrape_error")
        return some ⟨access, scrapeError⟩

def powerCapIncapable (runtime : PyRuntime) (result : JobResult) : Option PowerCapIncapable :=
  match result.spec with
  | none => none
  | some spec =>
    match PyValue.field spec "container_cap_eff", PyValue.field spec "nvidiactl_owner_uid" with
    | .str capEff, .int ownerUid =>
      match runtime.intOfHexText capEff with
      | none => none
      | some capabilityMask =>
        let hasSysAdmin := (capabilityMask >>> capSysAdminBit) % 2 = 1
        if hasSysAdmin ∧ ownerUid = nvidiactlRootUid then none
        else some ⟨capEff, ownerUid⟩
    | _, _ => none

def powerCapReverted (redis : RedisService) (result : JobResult) : Option PowerCapReverted :=
  match result.spec with
  | none => none
  | some _ =>
    let reverts := redis.gpuPowerCapReverts result.executorInfo.uuid
    match reverts.getLast? with
    | none => none
    | some last =>
      if reverts.length < minPowerCapRevertsToPenalize then none
      else
        some ⟨reverts.length, capRevertWindowSeconds / 3600, last.cappedToWatts,
          last.foundWatts⟩

def remainderSizing (result : JobResult) : Option (List (String × PyValue) × ℕ) :=
  if result.isSplitRemainder then
    match result.spec, result.splitMinCount with
    | some spec, some minCount => some (spec, minCount)
    | _, _ => none
  else none

/-- `available_port_count`, limited by the distinct verified ports; `none` when unreadable. -/
def availablePorts (spec : List (String × PyValue)) : Except PyError (Option Int) :=
  match PyValue.field spec "port_verify_first_miss" with
  | .bool true => .ok none
  | _ =>
    match (PyValue.field spec "available_port_count").asInt with
    | none => .ok none
    | some available =>
      match PyValue.field spec "verified_ports" with
      | .list verified => do
          let distinct ← PyValue.distinctCount verified
          return some (min available distinct)
      | _ => .ok (some available)

def sizePortLimit (freeGpuCount minCount : ℕ) (available : Int) : Option PortLimitedRemainder :=
  let freeSplitCount := freeGpuCount / minCount
  let paidSplitCount :=
    if minPortCount ≤ available then min freeSplitCount available.toNat else 0
  if 0 < freeSplitCount ∧ minPortCount ≤ available ∧ freeSplitCount ≤ paidSplitCount then none
  else
    some {
      availablePortCount := available
      requiredPortCount := max freeSplitCount minPortCount
      freeSplitCount := freeSplitCount
      paidSplitCount := paidSplitCount
      unpaidGpuCount :=
        if paidSplitCount = 0 then freeGpuCount
        else (freeSplitCount - paidSplitCount) * minCount }

def portLimitedRemainder (result : JobResult) : Except PyError (Option PortLimitedRemainder) :=
  match remainderSizing result with
  | none => .ok none
  | some (spec, minCount) =>
    (availablePorts spec).map fun available =>
      available.bind (sizePortLimit (result.gpuCount + result.portUnpaidGpuCount) minCount)

/-- `listable_split_count` and `listable_gpu_count` of `specs.split_disk`. -/
def listableSplits (spec : List (String × PyValue)) : Option (Int × Int) :=
  match PyValue.field spec "split_disk" with
  | .dict sizing =>
    match (PyValue.field sizing "listable_split_count").asInt,
      (PyValue.field sizing "listable_gpu_count").asInt with
    | some listable, some listableGpus => some (listable, listableGpus)
    | _, _ => none
  | _ => none

def sizeDiskLimit (freeGpuCount minCount : ℕ) (listable listableGpus : Int) :
    Option DiskLimitedRemainder :=
  let paidGpuCount := min freeGpuCount listableGpus.toNat
  if freeGpuCount ≤ paidGpuCount then none
  else
    some {
      freeSplitCount := freeGpuCount / minCount
      paidSplitCount := if paidGpuCount = 0 then 0 else listable.toNat
      unpaidGpuCount := freeGpuCount - paidGpuCount }

def diskLimitedRemainder (result : JobResult) : Option DiskLimitedRemainder :=
  match remainderSizing result with
  | none => none
  | some (spec, minCount) =>
    (listableSplits spec).bind fun sizing =>
      sizeDiskLimit (result.gpuCount + result.portUnpaidGpuCount) minCount sizing.1 sizing.2

end Gates

end Lium
