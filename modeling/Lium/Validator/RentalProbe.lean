import Lium.Foundation.ExpiringKey
import Mathlib.Algebra.Order.Field.Rat
import Mathlib.Data.List.Sort
import Mathlib.Data.String.Basic

/-! # Rental probe and hardware identity

Two checks whose verdict depends on what an earlier cycle left in Redis: the stamp of the last
passed probe, the failure that stands until a probe passes, and the identity a host last showed.
Each record is stored under the executor's UUID.
-/

namespace Lium.RentalProbe

structure Ctx where
  minerHotkey : String
  executorUuid : String
deriving DecidableEq, Repr

inductive Step where
  | containerStart
  | sshdListen
  | sshLogin
  | gpuCount
  | egress
deriving DecidableEq, Repr

structure Failure where
  step : Step
  createStep : Option String
deriving DecidableEq, Repr

structure Identity where
  gpus : List String
  dmi : String
deriving DecidableEq, Repr

structure Redis where
  lastOk : String → ExpiringKey ℕ
  failed : String → Option Failure
  identity : String → ExpiringKey Identity

def Redis.empty : Redis where
  lastOk := fun _ => none
  failed := fun _ => none
  identity := fun _ => none

def lastOkKey (ctx : Ctx) : String :=
  "rental_probe_ok:" ++ ctx.executorUuid

def failedKey (ctx : Ctx) : String :=
  "rental_probe_failed:" ++ ctx.executorUuid

def identityKey (ctx : Ctx) : String :=
  "hardware_identity:" ++ ctx.executorUuid

structure Settings where
  /-- `RENTAL_PROBE_INTERVAL_HOURS`. -/
  intervalHours : ℚ
  intervalHours_pos : 0 < intervalHours
  /-- `NO_OUTBOUND_INTERNET_ENFORCEMENT_ENABLED`. -/
  egressEnforced : Bool
deriving DecidableEq

/-- `_REDIS_STAMP_TTL_SECONDS` and `HW_ID_TTL_SECONDS`. -/
def recordTtl : ℕ := 30 * 24 * 3600

section Probe

inductive SkipReason where
  | rented
  | portCheckDeferred
  | tooLittleTime
  | withinInterval
  | imageNotPulled
  | rentInProgress
  | rentedSinceCycleStart
deriving DecidableEq, Repr

inductive Inconclusive where
  | missingInput
  | noDefaultImage
  | imagesUnreadable
  | lockUnreadable
  | idlenessUnknown
  | rereadOverran
  | tooLittleTimeForCreate
  | probe (reason : String)
  | rentalNotRuledOut
  | rentedMeanwhile
  | fillerMeanwhile
deriving DecidableEq, Repr

inductive NoVerdict where
  | skipped (reason : SkipReason)
  | inconclusive (reason : Inconclusive)
deriving DecidableEq, Repr

inductive ProbeResult where
  | ok
  | noVerdict (reason : NoVerdict)
  | carried (standing : Failure) (noVerdict : NoVerdict)
  | failed (failure : Failure)
deriving DecidableEq, Repr

inductive ProbeOutcome where
  | ok
  | inconclusive (reason : String)
  | failed (failure : Failure)
deriving DecidableEq, Repr

inductive BusyNow where
  | idle
  | rentInProgress
  | rentedSinceCycleStart
deriving DecidableEq, Repr

inductive Meanwhile where
  | untouched
  | rented
  | givenFiller
deriving DecidableEq, Repr

/-- What the backend, the host and the probe answer in one cycle; `none` is an answer that could
not be read. -/
structure ProbeAnswers where
  now : ℕ
  rented : Bool
  portCheckDeferred : Bool
  taskSecondsLeft : ℤ
  missingInput : Bool
  hasDefaultImage : Bool
  imagePresent : Option Bool
  createLock : Option Bool
  busyNow : Option BusyNow
  rereadOverran : Bool
  createDeadline : ℤ
  outcome : ProbeOutcome
  rentedMeanwhile : Option Meanwhile
  doneAt : ℕ
deriving DecidableEq, Repr

variable (settings : Settings) (ctx : Ctx) (answers : ProbeAnswers) (redis : Redis)

/-- `_standing_failure`; an egress failure stands only while it is enforced. -/
def standingFailure : Option Failure :=
  (redis.failed (failedKey ctx)).filter fun failure =>
    failure.step ≠ .egress || settings.egressEnforced

def lastOkAt : Option ℕ :=
  ((redis.lastOk (lastOkKey ctx)).expire answers.now).map Prod.fst

/-- `_MIN_TASK_SECONDS_LEFT_STANDING` or `_MIN_TASK_SECONDS_LEFT`. -/
def minTaskSecondsLeft (standing : Option Failure) : ℤ :=
  if standing.isSome then 270 else 360

def skipReason (standing : Option Failure) : Option SkipReason :=
  if answers.rented then some .rented
  else if answers.portCheckDeferred then some .portCheckDeferred
  else if answers.taskSecondsLeft < minTaskSecondsLeft standing then some .tooLittleTime
  else if (lastOkAt ctx answers redis).any fun lastOk =>
      (answers.now : ℚ) - lastOk < settings.intervalHours * 3600 then some .withinInterval
  else none

/-- A cycle with no verdict of its own fails with the standing failure. -/
def withoutVerdict (standing : Option Failure) (reason : NoVerdict) : ProbeResult :=
  match standing with
  | some failure => .carried failure reason
  | none => .noVerdict reason

/-- `_idle_under_lock`: a node that a renter has is left alone. -/
def idleUnderLock (standing : Option Failure) : Option ProbeResult :=
  match answers.busyNow with
  | none => some (withoutVerdict standing (.inconclusive .idlenessUnknown))
  | some .rentInProgress => some (.noVerdict (.skipped .rentInProgress))
  | some .rentedSinceCycleStart => some (.noVerdict (.skipped .rentedSinceCycleStart))
  | some .idle =>
    if answers.rereadOverran then
      some (withoutVerdict standing (.inconclusive .rereadOverran))
    else none

/-- `_may_probe`: the result that ends the cycle before a probe. -/
def mayProbe (standing : Option Failure) : Option ProbeResult :=
  match skipReason settings ctx answers redis standing with
  | some .rented => some (.noVerdict (.skipped .rented))
  | some reason => some (withoutVerdict standing (.skipped reason))
  | none =>
    if answers.missingInput then some (withoutVerdict standing (.inconclusive .missingInput))
    else if !answers.hasDefaultImage then
      some (withoutVerdict standing (.inconclusive .noDefaultImage))
    else
      match answers.imagePresent, answers.createLock with
      | none, _ => some (withoutVerdict standing (.inconclusive .imagesUnreadable))
      | some false, _ => some (withoutVerdict standing (.skipped .imageNotPulled))
      | some true, none => some (withoutVerdict standing (.inconclusive .lockUnreadable))
      | some true, some false => some (.noVerdict (.skipped .rentInProgress))
      | some true, some true => idleUnderLock answers standing

/-- `_stamp_last_ok` and `_clear_failure`. -/
def stampPass : Redis :=
  { redis with
    lastOk := Function.update redis.lastOk (lastOkKey ctx)
      (some (answers.doneAt, answers.doneAt + recordTtl))
    failed := Function.update redis.failed (failedKey ctx) none }

/-- `_clear_last_ok` and `_stamp_failure`; an empty create step reads back as none. -/
def stampFailure (failure : Failure) : Redis :=
  { redis with
    lastOk := Function.update redis.lastOk (lastOkKey ctx) none
    failed := Function.update redis.failed (failedKey ctx)
      (some { failure with createStep := failure.createStep.filter (· ≠ "") }) }

/-- `RentalProbeCheck.run`. -/
def run : ProbeResult × Redis :=
  let standing := standingFailure settings ctx redis
  match mayProbe settings ctx answers redis standing with
  | some result => (result, redis)
  | none =>
    if answers.createDeadline < 60 then
      (withoutVerdict standing (.inconclusive .tooLittleTimeForCreate), redis)
    else
      match answers.outcome with
      | .inconclusive reason => (withoutVerdict standing (.inconclusive (.probe reason)), redis)
      | .ok => (.ok, stampPass ctx answers redis)
      | .failed failure =>
        match answers.rentedMeanwhile with
        | none => (withoutVerdict standing (.inconclusive .rentalNotRuledOut), redis)
        | some .rented => (.noVerdict (.inconclusive .rentedMeanwhile), redis)
        | some .givenFiller =>
          (withoutVerdict standing (.inconclusive .fillerMeanwhile), redis)
        | some .untouched => (.failed failure, stampFailure ctx redis failure)

end Probe

section Hardware

structure HardwareAnswers where
  now : ℕ
  reported : List String
  kernel : Option (List String)
  hasSsh : Bool
  overlays : List String
  dmiIdentity : String
  hostKernel : List String
  hasLiveRental : Bool
deriving DecidableEq, Repr

/-- `sorted(set(values))`. -/
def sortedSet (values : List String) : List String :=
  values.dedup.insertionSort (· ≤ ·)

inductive Finding where
  | dmiOverlaid
  | gpuSourcesDisagree
  | dmiChangedUnderSameGpus
deriving DecidableEq, Repr

def gpuSourcesDisagree (reported : List String) (kernel : Option (List String)) : Bool :=
  kernel.any fun listed => reported.any fun gpu => gpu ∉ listed

def dmiIdentityDrifted (previous : Option Identity) (gpus : List String) (dmiIdentity : String) :
    Bool :=
  previous.any fun identity => dmiIdentity ≠ "" && identity.dmi ≠ "" && identity.gpus = gpus &&
    identity.dmi ≠ dmiIdentity

namespace HardwareAnswers

variable (answers : HardwareAnswers)

def kernelSet : Option (List String) :=
  answers.kernel.map sortedSet

/-- `kernel or reported`. -/
def gpus : List String :=
  match answers.kernelSet with
  | some (gpu :: rest) => gpu :: rest
  | _ => sortedSet answers.reported

/-- The host's own list, asked for when the container's does not cover the report. -/
def hostKernelSet : Option (List String) :=
  if gpuSourcesDisagree (sortedSet answers.reported) answers.kernelSet && answers.hasSsh &&
      !answers.hostKernel.isEmpty then some (sortedSet answers.hostKernel) else none

def findings (previous : Option Identity) : List Finding :=
  (if answers.overlays ≠ [] then [.dmiOverlaid] else []) ++
    (if gpuSourcesDisagree (sortedSet answers.reported)
        (answers.hostKernelSet.or answers.kernelSet) then [.gpuSourcesDisagree] else []) ++
    (if dmiIdentityDrifted previous answers.gpus answers.dmiIdentity then
      [.dmiChangedUnderSameGpus] else [])

end HardwareAnswers

/-- `HardwareIdentityCheck.run`: the findings, and the record of a readable identity. -/
def checkHardwareIdentity (ctx : Ctx) (answers : HardwareAnswers) (redis : Redis) :
    List Finding × Redis :=
  let previous := ((redis.identity (identityKey ctx)).expire answers.now).map Prod.fst
  let record : Redis :=
    if answers.gpus ≠ [] ∧ answers.dmiIdentity ≠ "" ∧ answers.overlays = [] then
      { redis with
        identity := Function.update redis.identity (identityKey ctx)
          (some (⟨answers.gpus, answers.dmiIdentity⟩, answers.now + recordTtl)) }
    else redis
  (answers.findings previous, record)

end Hardware

end Lium.RentalProbe
